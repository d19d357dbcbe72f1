import Tabula.Proofs.Query.BulkWrite
import Tabula.Query.Manager
import Mathlib.Logic.Basic
/-!
# Filters and their exclusions

What is kept by a filter and what is kept by its exclusion.  A condition on columns and places that are there, with
arguments that are there, is true or false, so a row is either kept or dropped: `Manager.filter_exclude_split`.  A
filter without any condition compiles to no restriction, and so does its negation.
-/

namespace Tabula

open Sql (Condition Operand Restriction Select Sense Truth)

/-! ## Known truth values -/

namespace Sql

theorem Truth.joined_known (join : Join) {ts : List Truth} (h : ∀ t ∈ ts, t ≠ .unknown) :
    Truth.joined join ts ≠ .unknown := by
  induction ts with
  | nil => cases join <;> decide
  | cons t ts ih =>
    rw [List.forall_mem_cons] at h
    have ih := ih h.2
    have head := h.1
    cases join with
    | and =>
      change t.and (Truth.joined .and ts) ≠ .unknown
      generalize Truth.joined .and ts = u at ih
      cases t <;> cases u <;> simp_all [Truth.and]
    | or =>
      change t.or (Truth.joined .or ts) ≠ .unknown
      generalize Truth.joined .or ts = u at ih
      cases t <;> cases u <;> simp_all [Truth.or]

theorem Truth.not_known {t : Truth} (h : t ≠ .unknown) : t.not ≠ .unknown := by
  cases t <;> simp_all [Truth.not]

theorem Truth.ofBool_known (b : Bool) : Truth.ofBool b ≠ .unknown := by
  cases b <;> decide

/-- what a database promises of data that are there: capitals of a text are a text, and operators come to an answer -/
structure Sense.Lawful {ρ δ : Type} (sense : Sense ρ δ) : Prop where
  parameter : ∀ v, v.isNull = false → sense.isNull (sense.parameter (some v)) = false
  upper : ∀ d, sense.isNull d = false → sense.isNull (sense.upper d) = false
  compare : ∀ op a b, sense.isNull a = false → sense.isNull b = false → sense.compare op a b ≠ .unknown
  among : ∀ a items, sense.isNull a = false → (∀ v ∈ items, v.isNull = false) →
    sense.among a (sense.parameter (some (.list items))) ≠ .unknown

end Sql

/-- whether a value is there, and every member of it if it is a list -/
def Value.isPresent : Value → Bool
  | null => false
  | list items => items.all fun v => !v.isNull
  | _ => true

theorem Value.isNull_of_isPresent {v : Value} (h : v.isPresent = true) : v.isNull = false := by
  cases v <;> simp_all [isPresent, isNull]

/-! ## What a key is about -/

/-- whether a test reads a value as text -/
def PathTest.readsText : PathTest → Bool
  | startsWith | endsWith | startsWithAnyCase | endsWithAnyCase | containsAnyCase | exactAnyCase => true
  | _ => false

/-- what a test reads -/
def PathFilter.place (f : PathFilter) : Operand := if f.test.readsText then f.path.valueText else f.path.value

/-- the column, or the place in a document, that the key of a filter is about -/
def Model.place? (m : Model) (key : String) : Option Operand :=
  match m.filter? key with
  | some entry => some (.column entry.column)
  | none =>
    match PathFilter.parse? m key with
    | .ok (some f) => some f.place
    | _ => none

variable {ρ δ : Type} {sense : Sense ρ δ} {row : ρ} {ps qs all : List Value}

theorem Sql.Condition.truths_eq (cs : List (Condition Operand)) :
    Condition.truths sense all row cs = cs.map (Condition.truth sense all row) := by
  induction cs with
  | nil => rfl
  | cons c cs ih => rw [Condition.truths, ih, List.map_cons]

/-- a value bound behind others is found under its number -/
theorem Sql.StoredRow.parameter_bound {v : Value} (h : ps ++ [v] <+: all) :
    StoredRow.parameter? all (ps.length + 1) = some v := by
  obtain ⟨more, rfl⟩ := h
  simp [StoredRow.parameter?]

/-- the datum of a bound value -/
theorem datum_bound {v : Value} (h : ps ++ [v] <+: all) :
    (Operand.parameter (ps.length + 1)).datum sense all row = sense.parameter (some v) := by
  rw [Operand.datum, Sql.StoredRow.parameter_bound h]

section Leaves

variable (lawful : sense.Lawful) (present : ∀ v ∈ all, v.isPresent = true) {place : Operand}

/-- a condition that asks whether a place is missing has an answer -/
theorem missing_known (flag : Bool) : (Condition.missing flag place).truth sense all row ≠ .unknown := by
  cases flag <;> exact Truth.ofBool_known _

theorem orNull_known {c : Condition Operand} (h : c.truth sense all row ≠ .unknown) :
    (c.orNull place).truth sense all row ≠ .unknown := by
  refine Truth.joined_known .or fun t ht => ?_
  simp only [Condition.truths, List.mem_cons, List.not_mem_nil, or_false] at ht
  rcases ht with rfl | rfl
  · exact h
  · exact Truth.ofBool_known _

include lawful present

/-- the datum of a bound value is there -/
theorem bound_present (row : ρ) {v : Value} (h : ps ++ [v] <+: all) :
    sense.isNull ((Operand.parameter (ps.length + 1)).datum sense all row) = false := by
  have mem : v ∈ all := h.subset (by simp)
  rw [datum_bound h]
  exact lawful.parameter v (Value.isNull_of_isPresent (present v mem))

/-- an operator between a place and a bound value -/
theorem compare_known {v : Value} (h : ps ++ [v] <+: all)
    (there : sense.isNull (place.datum sense all row) = false) (op : Sql.Operator) :
    Condition.truth sense all row (.compare op (.plain place) (.plain (.parameter (ps.length + 1)))) ≠ .unknown :=
  lawful.compare op _ _ there (bound_present lawful present row h)

/-- the same between both in capitals -/
theorem capitals_known {v : Value} (h : ps ++ [v] <+: all)
    (there : sense.isNull (place.datum sense all row) = false) (op : Sql.Operator) :
    Condition.truth sense all row (.compare op (.upper place) (.upper (.parameter (ps.length + 1)))) ≠ .unknown :=
  lawful.compare op _ _ (lawful.upper _ there) (lawful.upper _ (bound_present lawful present row h))

theorem among_known {items : List Value} (h : ps ++ [.list items] <+: all)
    (there : sense.isNull (place.datum sense all row) = false) :
    Condition.truth sense all row (.among place (.parameter (ps.length + 1))) ≠ .unknown := by
  have mem : .list items ∈ all := h.subset (by simp)
  have members : ∀ v ∈ items, v.isNull = false := by
    simpa [Value.isPresent] using present _ mem
  rw [Condition.truth, datum_bound h]
  exact lawful.among _ items there members

/-- the lookups of a list bind one -/
theorem Lookup.condition_known {lookup : Lookup} {v : Value} (h : ps ++ [v] <+: all)
    (listed : lookup = .among ∨ lookup = .notAmong → ∃ items, v = .list items)
    (there : sense.isNull (place.datum sense all row) = false) (flag : Bool) :
    (lookup.condition place (.parameter (ps.length + 1)) flag).truth sense all row ≠ .unknown := by
  have compares := compare_known lawful present h there
  have capitals := capitals_known lawful present h there
  cases lookup with
  | exact | greater | atLeast | less | atMost | like => exact compares _
  | notExact => exact orNull_known (compares _)
  | among =>
    obtain ⟨items, rfl⟩ := listed (.inl rfl)
    exact among_known lawful present h there
  | notAmong =>
    obtain ⟨items, rfl⟩ := listed (.inr rfl)
    exact orNull_known (Truth.not_known (among_known lawful present h there))
  | isNull | notIsNull => exact missing_known _
  | exactAnyCase | likeAnyCase => exact capitals _

namespace PathFilter

variable {f : PathFilter} {op : Sql.Operator} {c : Condition Operand}

omit lawful present in
/-- a condition made of the number of a bound value -/
theorem known_of_bind {v : Value} {make : Nat → Condition Operand}
    (h : (Binding.bind v >>= fun n => pure (make n)).runWith ps = (.ok c, qs)) (behind : qs <+: all)
    (known : ps ++ [v] <+: all → (make (ps.length + 1)).truth sense all row ≠ .unknown) :
    c.truth sense all row ≠ .unknown := by
  simp only [Binding.runWith_seq, Binding.runWith_bind_value, Binding.runWith_pure, Prod.mk.injEq,
    Except.ok.injEq] at h
  obtain ⟨rfl, rfl⟩ := h
  exact known behind

theorem against_known {v : Value} (h : (f.against op v).runWith ps = (.ok c, qs)) (behind : qs <+: all)
    (there : sense.isNull (f.path.value.datum sense all row) = false) : c.truth sense all row ≠ .unknown :=
  known_of_bind h behind fun bound => compare_known lawful present bound there op

theorem textAgainst_known {s : String} (h : (f.textAgainst op s).runWith ps = (.ok c, qs)) (behind : qs <+: all)
    (there : sense.isNull (f.path.valueText.datum sense all row) = false) : c.truth sense all row ≠ .unknown :=
  known_of_bind h behind fun bound => compare_known lawful present bound there op

theorem capitalsAgainst_known {s : String} (h : (f.capitalsAgainst op s).runWith ps = (.ok c, qs))
    (behind : qs <+: all) (there : sense.isNull (f.path.valueText.datum sense all row) = false) :
    c.truth sense all row ≠ .unknown :=
  known_of_bind h behind fun bound => capitals_known lawful present bound there op

theorem membership_known {v : Value} (h : (f.membership v).runWith ps = (.ok c, qs)) (behind : qs <+: all)
    (there : sense.isNull (f.path.value.datum sense all row) = false) : c.truth sense all row ≠ .unknown := by
  cases v with
  | list items => exact known_of_bind h behind fun bound => among_known lawful present bound there
  | _ => simp [membership, expectedList] at h

theorem keysAgainst_known {v : Value} (h : (f.keys v >>= fun ks => f.against op (.list ks)).runWith ps = (.ok c, qs))
    (behind : qs <+: all) (there : sense.isNull (f.path.value.datum sense all row) = false) :
    c.truth sense all row ≠ .unknown := by
  obtain ⟨ks, rs, _, h⟩ := Binding.runWith_seq_ok h
  exact against_known lawful present h behind there

theorem compile_known {v : Value} (h : (f.compile v).runWith ps = (.ok c, qs)) (behind : qs <+: all)
    (there : sense.isNull (f.place.datum sense all row) = false) : c.truth sense all row ≠ .unknown := by
  unfold compile at h
  unfold place at there
  cases ht : f.test <;>
    simp only [ht, PathTest.readsText, Bool.false_eq_true, if_true, if_false] at h there
  case exact =>
    split at h
    · simp only [Binding.runWith_pure, Prod.mk.injEq, Except.ok.injEq] at h
      exact h.1 ▸ missing_known true
    · exact against_known lawful present h behind there
  case notExact =>
    split at h
    · simp only [Binding.runWith_pure, Prod.mk.injEq, Except.ok.injEq] at h
      exact h.1 ▸ missing_known false
    · obtain ⟨d, hd, rfl⟩ := Binding.runWith_seq_pure_ok h
      exact orNull_known (against_known lawful present hd behind there)
  case notAmong =>
    obtain ⟨d, hd, rfl⟩ := Binding.runWith_seq_pure_ok h
    exact orNull_known (Truth.not_known (membership_known lawful present hd behind there))
  case isNull | notIsNull =>
    simp only [Binding.runWith_pure, Prod.mk.injEq, Except.ok.injEq] at h
    exact h.1 ▸ missing_known _
  case among => exact membership_known lawful present h behind there
  case hasKeys | hasAnyKey => exact keysAgainst_known lawful present h behind there
  case startsWith | endsWith => exact textAgainst_known lawful present h behind there
  case startsWithAnyCase | endsWithAnyCase | containsAnyCase | exactAnyCase =>
    exact capitalsAgainst_known lawful present h behind there
  all_goals exact against_known lawful present h behind there

end PathFilter

namespace Model

variable {m : Model}

omit lawful present in
/-- the lookups of a list take one -/
theorem listed_of_filter {key : String} {entry : CatalogEntry} (h : m.filter? key = some entry) {f : Field}
    {v p : Value} (encodes : entry.form.encode f v = .ok (.parameter p))
    (lookup : entry.lookup = .among ∨ entry.lookup = .notAmong) : ∃ items, p = .list items := by
  obtain ⟨suffix, mem⟩ := lookup_of_filter h
  have lists : ∀ l ∈ commonLookups ++ orderedLookups ++ textLookups,
      l.2.1 = .among ∨ l.2.1 = .notAmong → l.2.2 = .fieldList := by decide
  have form : entry.form = .fieldList := lists _ mem lookup
  rw [form] at encodes
  cases v with
  | list items =>
    obtain ⟨vs, _, heq⟩ := Outcome.map_ok.mp encodes
    cases heq
    exact ⟨vs, rfl⟩
  | _ => simp [ArgumentForm.encode, failure] at encodes

/-- **A pair has an answer** on a row that has the place it is about. -/
theorem condition_known {key : String} {v : Value} {c : Condition Operand}
    (h : (m.condition key v).runWith ps = (.ok c, qs)) (behind : qs <+: all)
    (there : ∀ place ∈ m.place? key, sense.isNull (place.datum sense all row) = false) :
    c.truth sense all row ≠ .unknown := by
  unfold condition at h
  unfold place? at there
  cases he : m.filter? key with
  | none =>
    simp only [he] at h there
    obtain ⟨found, rs, hf, h⟩ := Binding.runWith_seq_ok h
    rw [Binding.runWith_lift, Prod.mk.injEq] at hf
    obtain ⟨hf, rfl⟩ := hf
    cases found with
    | none => simp at h
    | some f => exact f.compile_known lawful present h behind (there f.place (by simp [hf]))
  | some entry =>
    simp only [he] at h there
    have there := there _ rfl
    cases hf : m.field? entry.field with
    | none => simp [hf] at h
    | some f =>
      simp only [hf] at h
      obtain ⟨argument, rs, ha, h⟩ := Binding.runWith_seq_ok h
      rw [Binding.runWith_lift, Prod.mk.injEq] at ha
      obtain ⟨ha, rfl⟩ := ha
      cases argument with
      | flag b =>
        rcases ArgumentForm.encode_ok ha with ⟨truth, _⟩ | ⟨_, p, hp⟩
        · have check := (form_of_filter he).mp truth
          simp only [Binding.runWith_pure, Prod.mk.injEq, Except.ok.injEq] at h
          rw [← h.1]
          cases hl : entry.lookup <;> simp [hl, Lookup.isNullCheck] at check <;> exact missing_known _
        · cases hp
      | parameter p =>
        exact PathFilter.known_of_bind h behind fun bound =>
          Lookup.condition_known lawful present bound (listed_of_filter he ha) there false

theorem conditions_known {pairs : List (String × Value)} {cs : List (Condition Operand)}
    (h : (m.conditions pairs).runWith ps = (.ok cs, qs)) (behind : qs <+: all)
    (there : ∀ p ∈ pairs, ∀ place ∈ m.place? p.1, sense.isNull (place.datum sense all row) = false) :
    ∀ c ∈ cs, c.truth sense all row ≠ .unknown := by
  induction pairs generalizing ps cs with
  | nil =>
    simp only [conditions, Binding.runWith_pure, Prod.mk.injEq, Except.ok.injEq] at h
    simp [← h.1]
  | cons p rest ih =>
    obtain ⟨c, ds, rs, hc, hd, rfl⟩ := conditions_cons_ok h
    obtain ⟨_, bound, rfl, _⟩ := conditions_sites hd
    rw [List.forall_mem_cons] at there ⊢
    exact ⟨condition_known lawful present hc ((List.prefix_append rs bound).trans behind) there.1, ih hd there.2⟩

end Model

end Leaves

/-! ## Filters -/

namespace Filter

variable {m : Model}

/-- conditions with answers have one under a join -/
theorem joined_known {join : Sql.Join} {parts : List (Condition Operand)} {c : Condition Operand}
    (h : Condition.joined join parts = some c) (known : ∀ d ∈ parts, d.truth sense all row ≠ .unknown) :
    c.truth sense all row ≠ .unknown := by
  match parts, h with
  | [d], h =>
    obtain rfl := Option.some.inj h
    exact known d (by simp)
  | d :: e :: rest, h =>
    obtain rfl := Option.some.inj h
    refine Truth.joined_known join fun t ht => ?_
    rw [Condition.truths_eq] at ht
    obtain ⟨x, hx, rfl⟩ := List.mem_map.mp ht
    exact known x hx

theorem negatedIf_known {negated : Bool} {c : Condition Operand} (h : c.truth sense all row ≠ .unknown) :
    (negatedIf negated c).truth sense all row ≠ .unknown := by
  cases negated with
  | false => exact h
  | true => exact Truth.not_known h

mutual

/-- **A filter has an answer** on a row that has every place it is about. -/
theorem compile_known (lawful : sense.Lawful) (present : ∀ v ∈ all, v.isPresent = true) (f : Filter)
    {ps qs : List Value} {c : Option (Condition Operand)}
    (h : (compile m f).runWith ps = (.ok c, qs)) (behind : qs <+: all)
    (there : ∀ p ∈ f.pairs, ∀ place ∈ m.place? p.1, sense.isNull (place.datum sense all row) = false) :
    ∀ d ∈ c, d.truth sense all row ≠ .unknown := by
  intro d hd
  cases f with
  | leaf cs join negated =>
    obtain ⟨parts, hp, rfl⟩ := Binding.runWith_seq_pure_ok h
    obtain ⟨e, he, rfl⟩ := Option.map_eq_some_iff.mp hd
    exact negatedIf_known (joined_known he (m.conditions_known lawful present hp behind there))
  | branch fs join negated =>
    obtain ⟨parts, hp, rfl⟩ := Binding.runWith_seq_pure_ok h
    obtain ⟨e, he, rfl⟩ := Option.map_eq_some_iff.mp hd
    exact negatedIf_known (joined_known he (compileAll_known lawful present fs hp behind there))

theorem compileAll_known (lawful : sense.Lawful) (present : ∀ v ∈ all, v.isPresent = true) (fs : List Filter)
    {ps qs : List Value} {cs : List (Condition Operand)}
    (h : (compileAll m fs).runWith ps = (.ok cs, qs)) (behind : qs <+: all)
    (there : ∀ p ∈ pairsAll fs, ∀ place ∈ m.place? p.1, sense.isNull (place.datum sense all row) = false) :
    ∀ d ∈ cs, d.truth sense all row ≠ .unknown := by
  cases fs with
  | nil =>
    simp only [compileAll, Binding.runWith_pure, Prod.mk.injEq, Except.ok.injEq] at h
    simp [← h.1]
  | cons f fs =>
    obtain ⟨c, ds, rs, hc, hd, rfl⟩ := compileAll_cons_ok h
    obtain ⟨leaves, hl, _⟩ := compileAll_ok fs hd
    obtain ⟨_, bound, rfl, _⟩ := Model.conditions_sites hl
    simp only [pairsAll, List.mem_append] at there
    have own := compile_known lawful present f hc ((List.prefix_append rs bound).trans behind)
      fun p hp => there p (.inl hp)
    have others := compileAll_known lawful present fs hd behind fun p hp => there p (.inr hp)
    simpa [or_imp, forall_and] using ⟨own, others⟩

end

theorem joined_eq_none {join : Sql.Join} {parts : List (Condition Operand)} :
    Condition.joined join parts = none ↔ parts = [] := by
  match parts with
  | [] => simp [Condition.joined]
  | [c] => simp [Condition.joined]
  | c :: d :: rest => simp [Condition.joined]

mutual

/-- a filter compiles to nothing just if it has no condition -/
theorem compile_eq_none (f : Filter) {ps qs : List Value} {c : Option (Condition Operand)}
    (h : (compile m f).runWith ps = (.ok c, qs)) : c = none ↔ f.isEmpty = true := by
  cases f with
  | leaf cs join negated =>
    obtain ⟨parts, hp, rfl⟩ := Binding.runWith_seq_pure_ok h
    have length := Model.length_conditions hp
    rw [Option.map_eq_none_iff, joined_eq_none, isEmpty, List.isEmpty_iff, ← List.length_eq_zero_iff, length,
      List.length_eq_zero_iff]
  | branch fs join negated =>
    obtain ⟨parts, hp, rfl⟩ := Binding.runWith_seq_pure_ok h
    rw [Option.map_eq_none_iff, joined_eq_none, isEmpty, compileAll_eq_nil fs hp]

theorem compileAll_eq_nil (fs : List Filter) {ps qs : List Value} {cs : List (Condition Operand)}
    (h : (compileAll m fs).runWith ps = (.ok cs, qs)) : cs = [] ↔ allEmpty fs = true := by
  cases fs with
  | nil =>
    simp only [compileAll, Binding.runWith_pure, Prod.mk.injEq, Except.ok.injEq] at h
    simp [← h.1, allEmpty]
  | cons f fs =>
    obtain ⟨c, ds, rs, hc, hd, rfl⟩ := compileAll_cons_ok h
    rw [List.append_eq_nil_iff, Option.toList_eq_nil_iff, compile_eq_none f hc, compileAll_eq_nil fs hd, allEmpty,
      Bool.and_eq_true]

end

theorem truth_negatedIf (negated : Bool) (c : Condition Operand) :
    (negatedIf (!negated) c).truth sense all row = ((negatedIf negated c).truth sense all row).not := by
  cases negated with
  | false => rfl
  | true =>
    change c.truth sense all row = (c.truth sense all row).not.not
    cases c.truth sense all row <;> rfl

/-- a condition and its opposite, or no condition at all -/
inductive Opposite : Option (Condition Operand) → Option (Condition Operand) → Prop where
  | none : Opposite none none
  | some {c d : Condition Operand} (opposite : ∀ {ρ δ : Type} (sense : Sense ρ δ) (all : List Value) (row : ρ),
      d.truth sense all row = (c.truth sense all row).not) : Opposite (some c) (some d)

theorem opposite_joined (join : Sql.Join) (negated : Bool) (parts : List (Condition Operand)) :
    Opposite ((Condition.joined join parts).map (negatedIf negated))
      ((Condition.joined join parts).map (negatedIf !negated)) := by
  cases Condition.joined join parts with
  | none => exact .none
  | some c => exact .some fun sense all row => truth_negatedIf negated c

/-- **Negation negates.**  The negation of a filter binds the same values, and its condition is the opposite; it has
none if the filter has none. -/
theorem compile_negate {f : Filter} {c : Option (Condition Operand)} (h : (compile m f).runWith ps = (.ok c, qs)) :
    ∃ d, (compile m f.negate).runWith ps = (.ok d, qs) ∧ Opposite c d := by
  cases f with
  | leaf cs join negated =>
    obtain ⟨parts, hp, rfl⟩ := Binding.runWith_seq_pure_ok h
    refine ⟨_, ?_, opposite_joined .and negated parts⟩
    simp only [negate, compile, Binding.runWith_seq, hp, Binding.runWith_pure]
  | branch fs join negated =>
    obtain ⟨parts, hp, rfl⟩ := Binding.runWith_seq_pure_ok h
    refine ⟨_, ?_, opposite_joined join negated parts⟩
    simp only [negate, compile, Binding.runWith_seq, hp, Binding.runWith_pure]

end Filter

/-! ## Selections -/

/-- the rows of at most one condition -/
theorem Sql.Restriction.keeps_option {c : Option (Condition Operand)} :
    Restriction.keeps sense all (Sql.restrict c.toList) row = true ↔ ∀ d ∈ c, d.truth sense all row = .yes := by
  cases c with
  | none => simp [Sql.restrict, keeps]
  | some d => simp [Sql.restrict, keeps, Condition.truths]

/-- without a window and with duplicates, a selection has the rows that its restriction keeps -/
theorem Sql.Select.Gives.mem_iff {s : Select} {contents : String → List ρ} {result : List ρ}
    (h : s.Gives sense all contents result) (distinct : s.distinct = false) (limit : s.limit = none)
    (offset : s.offset = none) : row ∈ result ↔ row ∈ contents s.table ∧ s.rows.keeps sense all row = true := by
  have spares : s.Spares (s.passing sense all contents).length := .inr ⟨by simp [offset], by simp [limit]⟩
  have whole := (h.perm_iff (by simp [distinct])).mpr spares
  rw [whole.mem_iff, Select.passing, List.mem_filter]

namespace Model

variable {m : Model} {f : Filter}

/-- the selection of a single filter, compiled -/
def selectOne (m : Model) (c : Option (Condition Operand)) : Select :=
  { columns := m.columns, table := m.table, rows := Sql.restrict c.toList }

/-- one of the results of a selection without order -/
theorem selectOne_gives (sense : Sense ρ δ) (all : List Value) (contents : String → List ρ)
    (c : Option (Condition Operand)) :
    (m.selectOne c).Gives sense all contents
      ((m.selectOne c).window ((m.selectOne c).passing sense all contents)) :=
  .stages (by simp [selectOne]) (.refl _) (by simp [selectOne])

theorem select_of_compile {c : Option (Condition Operand)} (h : (f.compile m).runWith [] = (.ok c, qs)) :
    m.select { filters := [f] } = .ok ⟨.select (m.selectOne c), qs⟩ := by
  have alone : (Filter.compileAll m [f]).runWith [] = (.ok c.toList, qs) := by
    simp only [Filter.compileAll, Binding.runWith_seq, h]
    cases c <;> rfl
  have unsorted : m.sortKeys [] = .ok [] := rfl
  refine finished_of_runs ?_
  simp only [selectRows, restriction, Binding.runWith_map, Binding.runWith_seq, Binding.runWith_lift, alone, unsorted,
    Except.map, Binding.runWith_pure]
  rfl

theorem compile_of_select {c : Compiled} (h : m.select { filters := [f] } = .ok c) :
    ∃ d, (f.compile m).runWith [] = (.ok d, c.parameters) ∧ c.statement = .select (m.selectOne d) := by
  obtain ⟨_, _, restricts, _⟩ := select_ok h
  obtain ⟨cs, hc, _⟩ := Binding.runWith_map_ok restricts
  obtain ⟨d, ds, rs, hd, hds, _⟩ := Filter.compileAll_cons_ok hc
  simp only [Filter.compileAll, Binding.runWith_pure, Prod.mk.injEq] at hds
  obtain ⟨-, rfl⟩ := hds
  refine ⟨d, hd, ?_⟩
  rw [select_of_compile hd] at h
  rw [← Except.ok.inj h]

end Model

namespace Manager

variable {m : Manager} {f : Filter} {c : Compiled}

/-- **A filter and its exclusion split the rows, unless the filter has no condition.**  If the query compiles, so does
the exclusion, with the same parameters.  Without a condition both give every row.  With one, no row is given by both,
and a row is given by one of them if it has everything that the conditions are about and no parameter is missing. -/
theorem filter_exclude_split (h : m.entity.model.select (m.all.filter f).selection = .ok c) :
    ∃ kept dropped : Select, c.statement = .select kept ∧
      m.entity.model.select (m.all.exclude f).selection = .ok ⟨.select dropped, c.parameters⟩ ∧
      ∀ {ρ δ : Type} (sense : Sense ρ δ) (contents : String → List ρ) (filtered excluded : List ρ),
        kept.Gives sense c.parameters contents filtered → dropped.Gives sense c.parameters contents excluded →
        (f.isEmpty = true → ∀ row ∈ contents m.entity.model.table, row ∈ filtered ∧ row ∈ excluded) ∧
        (f.isEmpty = false → ∀ row, ¬(row ∈ filtered ∧ row ∈ excluded)) ∧
        (f.isEmpty = false → sense.Lawful → (∀ v ∈ c.parameters, v.isPresent = true) →
          ∀ row ∈ contents m.entity.model.table,
            (∀ p ∈ f.pairs, ∀ place ∈ m.entity.model.place? p.1,
              sense.isNull (place.datum sense c.parameters row) = false) →
            Xor (row ∈ filtered) (row ∈ excluded)) := by
  obtain ⟨d, compiles, statement⟩ := Model.compile_of_select h
  obtain ⟨d', compiles', opposite⟩ := Filter.compile_negate compiles
  refine ⟨_, _, statement, Model.select_of_compile compiles', ?_⟩
  intro ρ δ sense contents filtered excluded gives gives'
  have passes (row : ρ) : row ∈ filtered ↔ row ∈ contents m.entity.model.table ∧
      ∀ x ∈ d, x.truth sense c.parameters row = .yes := by
    rw [gives.mem_iff rfl rfl rfl, ← Restriction.keeps_option]
    rfl
  have drops (row : ρ) : row ∈ excluded ↔ row ∈ contents m.entity.model.table ∧
      ∀ x ∈ d', x.truth sense c.parameters row = .yes := by
    rw [gives'.mem_iff rfl rfl rfl, ← Restriction.keeps_option]
    rfl
  have none_iff := Filter.compile_eq_none f compiles
  cases opposite with
  | none =>
    have empty : f.isEmpty = true := none_iff.mp rfl
    refine ⟨fun _ row there => ?_, by simp [empty], by simp [empty]⟩
    simp [passes, drops, there]
  | @some x y opposite =>
    have condition : f.isEmpty = false := by simpa using none_iff
    refine ⟨by simp [condition], fun _ row => ?_, fun _ lawful present row there places => ?_⟩
    · rintro ⟨kept, dropped⟩
      have yes := ((passes row).mp kept).2 x rfl
      have no := ((drops row).mp dropped).2 y rfl
      rw [opposite, yes] at no
      cases no
    · have known := Filter.compile_known lawful present f compiles (List.prefix_refl _) places x rfl
      have answer := opposite sense c.parameters row
      cases hx : x.truth sense c.parameters row with
      | unknown => exact absurd hx known
      | yes =>
        rw [hx] at answer
        refine .inl ⟨(passes row).mpr ⟨there, by simp [hx]⟩, fun dropped => ?_⟩
        exact absurd (((drops row).mp dropped).2 y rfl) (by simp [answer, Truth.not])
      | no =>
        rw [hx] at answer
        refine .inr ⟨(drops row).mpr ⟨there, by simp [answer, Truth.not]⟩, fun kept => ?_⟩
        exact absurd (((passes row).mp kept).2 x rfl) (by simp [hx])

/-- items as pairs of an id and a size that may be missing, read as numbers and lists of them -/
def integers : Sense (Int × Option Int) (Option (List Int)) where
  column row name := if name = "id" then some [row.1] else if name = "size" then row.2.map fun n => [n] else none
  path d _ := d
  pathText d _ := d
  parameter v :=
    match v with
    | some (.int i) => some [i.toInt]
    | some (.list items) => some (items.filterMap fun i => i.asInt.map Int64.toInt)
    | some .null | none => none
    | some _ => some []
  upper d := d
  compare op a b :=
    match a, b with
    | some a, some b => .ofBool (if op = .less then a < b else a = b)
    | _, _ => .unknown
  among a b :=
    match a, b with
    | some a, some b => .ofBool (a.all b.contains)
    | _, _ => .unknown
  isNull d := d.isNone
  order _ _ := .eq

theorem lawful_integers : integers.Lawful where
  parameter v h := by cases v <;> simp_all [integers, Value.isNull]
  upper d h := h
  compare op a b ha hb := by
    cases a <;> cases b <;> simp_all [integers, Truth.ofBool_known]
  among a items ha h := by
    cases a <;> simp_all [integers, Truth.ofBool_known]

/-- the rows of all items -/
def ofItems : Manager := { entity := ⟨0, Model.ofItems⟩ }

/-- small items, under empty filters -/
def smallItems : Filter := .either (.both .empty (.condition "size__lt" (.int 3))) (~~~.empty)

theorem filter_exclude_split_small :
    let contents : String → List (Int × Option Int) := fun _ => [(1, some 2), (2, some 5)]
    ∃ (kept dropped : Select) (filtered excluded : List (Int × Option Int)),
      Model.ofItems.select (ofItems.all.filter smallItems).selection = .ok ⟨.select kept, [.int 3]⟩ ∧
      Model.ofItems.select (ofItems.all.exclude smallItems).selection = .ok ⟨.select dropped, [.int 3]⟩ ∧
      kept.Gives integers [.int 3] contents filtered ∧ dropped.Gives integers [.int 3] contents excluded ∧
      ∀ row ∈ contents "item", Xor (row ∈ filtered) (row ∈ excluded) := by
  intro contents
  have compiles : (Filter.compile Model.ofItems smallItems).runWith [] =
      (.ok (some (.compare .less (.plain (.column "size")) (.plain (.parameter 1)))), [.int 3]) := rfl
  have selects := Model.select_of_compile compiles
  obtain ⟨kept, dropped, hk, hd, split⟩ := filter_exclude_split (m := ofItems) selects
  obtain ⟨d, _, statement⟩ := Model.compile_of_select hd
  cases hk
  cases statement
  have gives := Model.selectOne_gives (m := Model.ofItems) integers [.int 3] contents
  have places : ∀ p ∈ smallItems.pairs, ofItems.entity.model.place? p.1 = some (.column "size") := by
    decide +kernel
  refine ⟨_, _, _, _, selects, hd, gives _, gives d, fun row there => ?_⟩
  refine (split integers contents _ _ (gives _) (gives d)).2.2 rfl lawful_integers (by decide) row there ?_
  intro p hp place hplace
  rw [places p hp] at hplace
  cases hplace
  revert row
  decide +kernel

/-- **Without a condition, or with an argument that is missing, the rows are not split**: what matches everything is
excluded without effect, and a comparison with NULL keeps no row and drops none. -/
theorem filter_exclude_unsplit :
    let contents : String → List (Int × Option Int) := fun _ => [(1, some 2)]
    (∃ kept dropped : Select, Model.ofItems.select (ofItems.all.filter .empty).selection = .ok ⟨.select kept, []⟩ ∧
      Model.ofItems.select (ofItems.all.exclude .empty).selection = .ok ⟨.select dropped, []⟩ ∧
      ∀ filtered excluded, kept.Gives integers [] contents filtered → dropped.Gives integers [] contents excluded →
        (1, some 2) ∈ filtered ∧ (1, some 2) ∈ excluded) ∧
    ∃ kept dropped : Select,
      Model.ofItems.select (ofItems.all.filter (.condition "size" .null)).selection = .ok ⟨.select kept, [.null]⟩ ∧
      Model.ofItems.select (ofItems.all.exclude (.condition "size" .null)).selection = .ok ⟨.select dropped, [.null]⟩ ∧
      ∀ filtered excluded, kept.Gives integers [.null] contents filtered →
        dropped.Gives integers [.null] contents excluded → (1, some 2) ∉ filtered ∧ (1, some 2) ∉ excluded := by
  intro contents
  have everything (negated : Bool) : (Filter.compile Model.ofItems (.leaf [] .and negated)).runWith [] =
      (.ok none, []) := rfl
  have comparison (negated : Bool) : (Filter.compile Model.ofItems (.leaf [("size", .null)] .and negated)).runWith [] =
      (.ok (some (negatedIf negated (.compare .equal (.plain (.column "size")) (.plain (.parameter 1))))),
        [.null]) := by
    cases negated <;> rfl
  refine ⟨⟨_, _, Model.select_of_compile (everything false), Model.select_of_compile (everything true), ?_⟩,
    ⟨_, _, Model.select_of_compile (comparison false), Model.select_of_compile (comparison true), ?_⟩⟩
  · intro filtered excluded gives gives'
    rw [gives.mem_iff rfl rfl rfl, gives'.mem_iff rfl rfl rfl]
    simp [contents, Model.selectOne, Sql.restrict, Restriction.keeps]
  · intro filtered excluded gives gives'
    rw [gives.mem_iff rfl rfl rfl, gives'.mem_iff rfl rfl rfl]
    decide +kernel

end Manager

end Tabula
