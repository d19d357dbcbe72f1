import Tabula.Proofs.Database.Values
import Tabula.Proofs.Field.Conversion
import Tabula.Proofs.Model.Catalog
import Tabula.Proofs.Query.Exclusion
/-!
# Lookups and their opposites

A negative lookup keeps the rows that the positive one drops, those included where the place is missing.  No row is
kept by both.  For the tests of documents every row is kept by one of them: `PathFilter.opposite_tests_split`.  The
lookups of a field leave a row to neither if the column has a datum and the argument is missing, or is a list with a
missing element and nothing in it that equals the datum: `Field.opposite_lookups_split`.
-/

namespace Tabula

open Sql (Condition Operand Sense Truth)

variable {ρ δ : Type} {sense : Sense ρ δ} {row : ρ} {ps ps' qs qs' all all' : List Value}

/-! ## Opposite truth values -/

namespace Sql

/-- truth values of opposites: the one denies the other, but it holds where the place is missing -/
structure Truth.Opposed (missing : Bool) (t t' : Truth) : Prop where
  denies : t' = t.not.or (.ofBool missing)
  absent : missing = true → t ≠ .yes

theorem Truth.Opposed.not_both {missing : Bool} {t t' : Truth} (h : Opposed missing t t') :
    ¬(t = .yes ∧ t' = .yes) := by
  rintro ⟨yes, denied⟩
  rw [h.denies, yes] at denied
  cases missing with
  | true => exact h.absent rfl yes
  | false => cases denied

theorem Truth.Opposed.one_iff {missing : Bool} {t t' : Truth} (h : Opposed missing t t') :
    Xor (t = .yes) (t' = .yes) ↔ missing = true ∨ t ≠ .unknown := by
  obtain ⟨rfl, absent⟩ := h
  cases missing with
  | true =>
    have certain : t.not.or .yes = .yes := by cases t <;> rfl
    simp [certain, absent, Truth.ofBool, xor_def]
  | false => cases t <;> simp [Truth.not, Truth.or, Truth.ofBool, xor_def]

theorem Condition.truth_neg (c : Condition Operand) : c.neg.truth sense all row = (c.truth sense all row).not := by
  rw [truth]

theorem Condition.truth_orNull (c : Condition Operand) (place : Operand) :
    (c.orNull place).truth sense all row =
      (c.truth sense all row).or (.ofBool (sense.isNull (place.datum sense all row))) := by
  change (c.truth sense all row).or ((Truth.ofBool (sense.isNull (place.datum sense all row))).or .no) = _
  cases sense.isNull (place.datum sense all row) <;> rfl

/-! ## Comparisons about a place and their opposites -/

section Places

variable {place : Operand} {d : δ} (stands : ∀ all, place.datum sense all row = d)

include stands

theorem Condition.truth_compare {p : Value} (bound : ps ++ [p] <+: all) (op : Operator) :
    (Condition.compare op (.plain place) (.plain (.parameter (ps.length + 1)))).truth sense all row =
      sense.compare op d (sense.parameter (some p)) := by
  rw [truth, Term.datum, Term.datum, stands, datum_bound bound]

theorem Condition.truth_among {p : Value} (bound : ps ++ [p] <+: all) :
    (Condition.among place (.parameter (ps.length + 1))).truth sense all row =
      sense.among d (sense.parameter (some p)) := by
  rw [truth, stands, datum_bound bound]

/-- a row passes either a null check or the check for the contrary -/
theorem missing_splits (all all' : List Value) (flag : Bool) :
    Xor ((Condition.missing flag place).truth sense all row = .yes)
      ((Condition.missing (!flag) place).truth sense all' row = .yes) := by
  cases flag with
  | true =>
    change Xor (Truth.ofBool (sense.isNull (place.datum sense all row)) = .yes)
      (Truth.ofBool (!sense.isNull (place.datum sense all' row)) = .yes)
    rw [stands, stands]
    cases sense.isNull d <;> decide
  | false =>
    change Xor (Truth.ofBool (!sense.isNull (place.datum sense all row)) = .yes)
      (Truth.ofBool (sense.isNull (place.datum sense all' row)) = .yes)
    rw [stands, stands]
    cases sense.isNull d <;> decide

variable (promise : sense.Equates)

include promise

/-- equality with a bound value, and inequality that lets a missing place through -/
theorem equal_splits {p : Value} (bound : ps ++ [p] <+: all) (bound' : ps' ++ [p] <+: all') :
    let c := Condition.compare .equal (.plain place) (.plain (.parameter (ps.length + 1)))
    let c' := (Condition.compare .unequal (.plain place) (.plain (.parameter (ps'.length + 1)))).orNull place
    ¬(c.truth sense all row = .yes ∧ c'.truth sense all' row = .yes) ∧
    (Xor (c.truth sense all row = .yes) (c'.truth sense all' row = .yes) ↔
      sense.isNull d = true ∨ p.isNull = false) := by
  intro c c'
  have unknown := promise.equal d (sense.parameter (some p))
  rw [promise.parameter] at unknown
  have opposed : Truth.Opposed (sense.isNull d) (c.truth sense all row) (c'.truth sense all' row) := by
    refine ⟨?_, ?_⟩
    · rw [Condition.truth_orNull, Condition.truth_compare stands bound, Condition.truth_compare stands bound',
        promise.unequal, stands]
    · intro missing
      rw [Condition.truth_compare stands bound, unknown.mpr (.inl missing)]
      decide
  refine ⟨opposed.not_both, ?_⟩
  rw [opposed.one_iff, Condition.truth_compare stands bound, ne_eq, unknown, not_or, Bool.not_eq_true, Bool.not_eq_true]
  cases sense.isNull d <;> simp

/-- membership in a bound list, and the denial that lets a missing place through -/
theorem among_splits {items : List Value} (bound : ps ++ [.list items] <+: all)
    (bound' : ps' ++ [.list items] <+: all') :
    let c := Condition.among place (.parameter (ps.length + 1))
    let c' := (Condition.neg (.among place (.parameter (ps'.length + 1)))).orNull place
    ¬(c.truth sense all row = .yes ∧ c'.truth sense all' row = .yes) ∧
    (Xor (c.truth sense all row = .yes) (c'.truth sense all' row = .yes) ↔
      sense.isNull d = true ∨ ¬((∃ x ∈ items, x.isNull = true) ∧
        ∀ x ∈ items, sense.compare .equal d (sense.parameter (some x)) ≠ .yes)) := by
  intro c c'
  have unknown (x : Value) := promise.equal d (sense.parameter (some x))
  simp only [promise.parameter] at unknown
  have opposed : Truth.Opposed (sense.isNull d) (c.truth sense all row) (c'.truth sense all' row) := by
    refine ⟨?_, ?_⟩
    · rw [Condition.truth_orNull, Condition.truth_neg, Condition.truth_among stands bound,
        Condition.truth_among stands bound', stands]
    · intro missing
      rw [Condition.truth_among stands bound, promise.among, ne_eq, Truth.any_eq_yes, List.mem_map]
      rintro ⟨x, _, equal⟩
      rw [(unknown x).mpr (.inl missing)] at equal
      cases equal
  refine ⟨opposed.not_both, ?_⟩
  rw [opposed.one_iff, Condition.truth_among stands bound, promise.among, ne_eq, Truth.any_eq_unknown]
  cases missing : sense.isNull d with
  | true => simp
  | false => simp [unknown, missing, and_comm]

end Places

end Sql

/-! ## Lookups of fields -/

namespace Field

variable {f : Field} {suffix : String} {lookup : Lookup} {v : Value} {c : Condition Operand}

/-- a lookup of a stored argument binds it -/
theorem condition_stored (h : (f.condition (suffix, lookup, .field) v).runWith ps = (.ok c, qs)) :
    ∃ p, f.toStorage v = .ok p ∧ qs = ps ++ [p] ∧
      c = lookup.condition (.column f.column) (.parameter (ps.length + 1)) false := by
  rcases condition_ok h with ⟨p, encodes, rfl, rfl⟩ | ⟨b, flag, _⟩
  · obtain ⟨q, stores, same⟩ := Outcome.map_ok.mp encodes
    cases same
    exact ⟨_, stores, rfl, rfl⟩
  · obtain ⟨q, _, same⟩ := Outcome.map_ok.mp flag
    cases same

/-- a lookup of a list binds what its elements are stored as -/
theorem condition_listed (h : (f.condition (suffix, lookup, .fieldList) v).runWith ps = (.ok c, qs)) :
    ∃ items stored, v = .list items ∧ items.mapM f.toStorage = .ok stored ∧ qs = ps ++ [.list stored] ∧
      c = lookup.condition (.column f.column) (.parameter (ps.length + 1)) false := by
  cases v with
  | list items =>
    rcases condition_ok h with ⟨p, encodes, rfl, rfl⟩ | ⟨b, flag, _⟩
    · obtain ⟨stored, stores, same⟩ := Outcome.map_ok.mp encodes
      cases same
      exact ⟨items, stored, rfl, stores, rfl, rfl⟩
    · obtain ⟨stored, _, same⟩ := Outcome.map_ok.mp flag
      cases same
  | _ => rcases condition_ok h with ⟨p, refused, _⟩ | ⟨b, refused, _⟩ <;> cases refused

/-- a null check binds nothing -/
theorem condition_check (h : (f.condition (suffix, lookup, .truth) v).runWith ps = (.ok c, qs)) :
    qs = ps ∧ c = lookup.condition (.column f.column) (.column f.column) v.isTruthy := by
  rcases condition_ok h with ⟨p, encodes, _⟩ | ⟨b, flag, rfl, rfl⟩
  · cases encodes
  · cases flag
    exact ⟨rfl, rfl⟩

end Field

/-- the suffixes of lookups that are opposites -/
def oppositeSuffixes : List (String × String) := [("", "__not"), ("__in", "__not_in"), ("__isnull", "__not_isnull")]

/-- whether an argument leaves open what becomes of a row with a datum in the column: it is missing, or it is a list
with a missing element and nothing in it is stored as something that equals the datum -/
def ArgumentForm.LeavesOpen (sense : Sense ρ δ) (d : δ) (f : Field) (v : Value) : ArgumentForm → Prop
  | field => v.isNull = true
  | fieldList => ∃ items, v = .list items ∧ (∃ x ∈ items, x.isNull = true) ∧
      ∀ x ∈ items, ∀ p, f.toStorage x = .ok p → sense.compare .equal d (sense.parameter (some p)) ≠ .yes
  | truth | text | pattern _ => False

/-- the elements of a list leave a row open just if what they are stored as does -/
theorem leavesOpen_list {f : Field} {items stored : List Value} (stores : items.mapM f.toStorage = .ok stored) (d : δ) :
    ArgumentForm.fieldList.LeavesOpen sense d f (.list items) ↔ (∃ p ∈ stored, p.isNull = true) ∧
      ∀ p ∈ stored, sense.compare .equal d (sense.parameter (some p)) ≠ .yes := by
  have missing : (∃ x ∈ items, x.isNull = true) ↔ ∃ p ∈ stored, p.isNull = true := by
    constructor
    · rintro ⟨x, mem, null⟩
      obtain ⟨p, hp, own⟩ := Outcome.exists_result_of_mem stores mem
      exact ⟨p, hp, (Field.isNull_of_toStorage own).trans null⟩
    · rintro ⟨p, mem, null⟩
      obtain ⟨x, hx, own⟩ := Outcome.exists_of_mem_mapM stores mem
      exact ⟨x, hx, (Field.isNull_of_toStorage own).symm.trans null⟩
  have unequal : (∀ x ∈ items, ∀ p, f.toStorage x = .ok p → sense.compare .equal d (sense.parameter (some p)) ≠ .yes) ↔
      ∀ p ∈ stored, sense.compare .equal d (sense.parameter (some p)) ≠ .yes := by
    constructor
    · intro each p mem
      obtain ⟨x, hx, own⟩ := Outcome.exists_of_mem_mapM stores mem
      exact each x hx p own
    · intro each x mem p own
      obtain ⟨q, hq, same⟩ := Outcome.exists_result_of_mem stores mem
      rw [own, Except.ok.injEq] at same
      exact same ▸ each q hq
  simp only [ArgumentForm.LeavesOpen, Value.list.injEq, exists_eq_left', missing, unequal]

/-- **The opposite lookups of a field split the rows that the argument does not leave open.**  For every field, every
argument that both take and every row, whatever else the two queries bind: the row is not kept by both.  It is kept by
one of them just if the column is missing or the argument does not leave the row open. -/
theorem Field.opposite_lookups_split {f : Field} {l l' : String × Lookup × ArgumentForm} (hl : l ∈ f.lookups)
    (hl' : l' ∈ f.lookups) (opposite : (l.1, l'.1) ∈ oppositeSuffixes) {v : Value} {c c' : Condition Operand}
    (h : (f.condition l v).runWith ps = (.ok c, qs)) (h' : (f.condition l' v).runWith ps' = (.ok c', qs'))
    (promise : sense.Equates) (bound : qs <+: all) (bound' : qs' <+: all') (row : ρ) :
    ¬(c.truth sense all row = .yes ∧ c'.truth sense all' row = .yes) ∧
    (Xor (c.truth sense all row = .yes) (c'.truth sense all' row = .yes) ↔
      sense.isNull (sense.column row f.column) = true ∨
        ¬l.2.2.LeavesOpen sense (sense.column row f.column) f v) := by
  have stands : ∀ all, (Operand.column f.column).datum sense all row = sense.column row f.column := fun _ => rfl
  simp only [oppositeSuffixes, List.mem_cons, Prod.mk.injEq, List.not_mem_nil, or_false] at opposite
  rcases opposite with ⟨suffix, suffix'⟩ | ⟨suffix, suffix'⟩ | ⟨suffix, suffix'⟩
  · obtain rfl : l = ("", .exact, .field) := eq_lookup hl (by decide) suffix
    obtain rfl : l' = ("__not", .notExact, .field) := eq_lookup hl' (by decide) suffix'
    obtain ⟨p, stores, rfl, rfl⟩ := condition_stored h
    obtain ⟨p', stores', rfl, rfl⟩ := condition_stored h'
    obtain rfl := Except.ok.inj (stores.symm.trans stores')
    have split := Sql.equal_splits stands promise bound bound'
    rw [isNull_of_toStorage stores, ← Bool.not_eq_true] at split
    exact split
  · obtain rfl : l = ("__in", .among, .fieldList) := eq_lookup hl (by decide) suffix
    obtain rfl : l' = ("__not_in", .notAmong, .fieldList) := eq_lookup hl' (by decide) suffix'
    obtain ⟨items, stored, rfl, stores, rfl, rfl⟩ := condition_listed h
    obtain ⟨items', stored', same, stores', rfl, rfl⟩ := condition_listed h'
    obtain rfl := Value.list.inj same
    obtain rfl := Except.ok.inj (stores.symm.trans stores')
    have split := Sql.among_splits stands promise bound bound'
    rw [← leavesOpen_list stores] at split
    exact split
  · obtain rfl : l = ("__isnull", .isNull, .truth) := eq_lookup hl (by decide) suffix
    obtain rfl : l' = ("__not_isnull", .notIsNull, .truth) := eq_lookup hl' (by decide) suffix'
    obtain ⟨rfl, rfl⟩ := condition_check h
    obtain ⟨rfl, rfl⟩ := condition_check h'
    have one := Sql.missing_splits stands all all' v.isTruthy
    exact ⟨((xor_iff_or_and_not_and _ _).mp one).2, iff_of_true one (.inr not_false)⟩

/-- a size that equals an element of a list, one that equals none beside a missing element, and a missing size -/
theorem Field.opposite_lookups_split_sizes :
    let f := (Field.new "size" .int).optional
    let v := Value.list [.null, .string "3"]
    let all : List Value := [.bool true, .list [.null, .int 3]]
    ∃ c c' : Condition Operand, (f.condition ("__in", .among, .fieldList) v).runWith [.bool true] = (.ok c, all) ∧
      (f.condition ("__not_in", .notAmong, .fieldList) v).runWith [.bool true] = (.ok c', all) ∧
      Xor (c.truth Sql.values all [("size", .int 3)] = .yes) (c'.truth Sql.values all [("size", .int 3)] = .yes) ∧
      ¬Xor (c.truth Sql.values all [("size", .int 2)] = .yes) (c'.truth Sql.values all [("size", .int 2)] = .yes) ∧
      Xor (c.truth Sql.values all [] = .yes) (c'.truth Sql.values all [] = .yes) := by
  intro f v all
  have hl : ("__in", .among, .fieldList) ∈ f.lookups := by decide
  have hl' : ("__not_in", .notAmong, .fieldList) ∈ f.lookups := by decide
  have h : (f.condition ("__in", .among, .fieldList) v).runWith [.bool true] = (.ok _, all) := rfl
  have h' : (f.condition ("__not_in", .notAmong, .fieldList) v).runWith [.bool true] = (.ok _, all) := rfl
  have split := opposite_lookups_split hl hl' (by decide) h h' Sql.values_equates (List.prefix_refl all)
    (List.prefix_refl all)
  refine ⟨_, _, h, h', (split _).2.mpr (.inr ?_), mt (split _).2.mp ?_, (split _).2.mpr (.inl rfl)⟩
  · rintro ⟨items, same, _, unequal⟩
    obtain rfl := Value.list.inj same
    exact unequal (.string "3") (by simp) (.int 3) rfl (by decide)
  · rintro (missing | closed)
    · cases missing
    · refine closed ⟨_, rfl, ⟨.null, by simp, rfl⟩, fun x mem p stores => ?_⟩
      simp only [List.mem_cons, List.not_mem_nil, or_false] at mem
      rcases mem with rfl | rfl
      · cases stores
        decide
      · obtain rfl : Value.int 3 = p := Except.ok.inj stores
        decide

/-- **With a missing argument, or a list with a missing element, a row may be kept by neither of two opposites.** -/
theorem Model.opposite_lookups_unsplit :
    (∃ c c', (Model.ofItems.condition "size" .null).runWith [] = (.ok c, [.null]) ∧
      (Model.ofItems.condition "size__not" .null).runWith [] = (.ok c', [.null]) ∧
      c.truth Sql.values [.null] [("id", .int 1), ("size", .int 2)] ≠ .yes ∧
      c'.truth Sql.values [.null] [("id", .int 1), ("size", .int 2)] ≠ .yes) ∧
    ∃ c c', (Model.ofItems.condition "size__in" (.list [.int 3, .null])).runWith [] = (.ok c, [.list [.int 3, .null]]) ∧
      (Model.ofItems.condition "size__not_in" (.list [.int 3, .null])).runWith [] =
        (.ok c', [.list [.int 3, .null]]) ∧
      c.truth Sql.values [.list [.int 3, .null]] [("id", .int 1), ("size", .int 2)] ≠ .yes ∧
      c'.truth Sql.values [.list [.int 3, .null]] [("id", .int 1), ("size", .int 2)] ≠ .yes := by
  refine ⟨⟨_, _, rfl, rfl, ?_, ?_⟩, ⟨_, _, rfl, rfl, ?_, ?_⟩⟩ <;> decide +kernel

/-! ## Tests of documents -/

/-- the tests of documents that are opposites -/
def PathTest.opposites : List (PathTest × PathTest) := [(exact, notExact), (among, notAmong), (isNull, notIsNull)]

namespace PathFilter

theorem runWith_against (f : PathFilter) (op : Sql.Operator) (v : Value) (ps : List Value) :
    (f.against op v).runWith ps =
      (.ok (.compare op (.plain f.path.value) (.plain (.parameter (ps.length + 1)))), ps ++ [v]) := rfl

theorem runWith_membership (f : PathFilter) (items : List Value) (ps : List Value) :
    (f.membership (.list items)).runWith ps =
      (.ok (.among f.path.value (.parameter (ps.length + 1))), ps ++ [.list (items.map document)]) := rfl

theorem isList_of_membership {f : PathFilter} {v : Value} {c : Condition Operand}
    (h : (f.membership v).runWith ps = (.ok c, qs)) : ∃ items, v = .list items := by
  cases v with
  | list items => exact ⟨items, rfl⟩
  | _ => simp [membership, expectedList] at h

/-- **The opposite tests of a document split the rows.**  For every path, every argument that both take, missing
arguments and lists with missing elements included, and every row, whatever else the two queries bind: the row is kept
by just one of them, whether the path leads to a document, to the document `null` or nowhere. -/
theorem opposite_tests_split {path : JsonPath} {test test' : PathTest} (pair : (test, test') ∈ PathTest.opposites)
    {v : Value} {c c' : Condition Operand} (h : (compile ⟨path, test⟩ v).runWith ps = (.ok c, qs))
    (h' : (compile ⟨path, test'⟩ v).runWith ps' = (.ok c', qs')) (promise : sense.Equates) (bound : qs <+: all)
    (bound' : qs' <+: all') (row : ρ) :
    Xor (c.truth sense all row = .yes) (c'.truth sense all' row = .yes) := by
  have stands : ∀ all, path.value.datum sense all row = sense.path (sense.column row path.column) path.segments :=
    fun _ => rfl
  simp only [PathTest.opposites, List.mem_cons, Prod.mk.injEq, List.not_mem_nil, or_false] at pair
  rcases pair with ⟨rfl, rfl⟩ | ⟨rfl, rfl⟩ | ⟨rfl, rfl⟩
  · cases missing : v.isNull with
    | true =>
      simp only [compile, missing, if_true, Binding.runWith_pure, Prod.mk.injEq, Except.ok.injEq] at h h'
      obtain ⟨rfl, rfl⟩ := h
      obtain ⟨rfl, rfl⟩ := h'
      exact Sql.missing_splits stands all all' true
    | false =>
      simp only [compile, missing, Bool.false_eq_true, if_false, Binding.runWith_seq, runWith_against,
        Binding.runWith_pure, Prod.mk.injEq, Except.ok.injEq] at h h'
      obtain ⟨rfl, rfl⟩ := h
      obtain ⟨rfl, rfl⟩ := h'
      exact (Sql.equal_splits stands promise bound bound').2.mpr (.inr rfl)
  · obtain ⟨items, rfl⟩ := isList_of_membership h
    simp only [compile, Binding.runWith_seq, runWith_membership, Binding.runWith_pure, Prod.mk.injEq,
      Except.ok.injEq] at h h'
    obtain ⟨rfl, rfl⟩ := h
    obtain ⟨rfl, rfl⟩ := h'
    refine (Sql.among_splits stands promise bound bound').2.mpr (.inr ?_)
    rintro ⟨⟨x, mem, missing⟩, _⟩
    obtain ⟨y, _, rfl⟩ := List.mem_map.mp mem
    cases missing
  · simp only [compile, Binding.runWith_pure, Prod.mk.injEq, Except.ok.injEq] at h h'
    obtain ⟨rfl, rfl⟩ := h
    obtain ⟨rfl, rfl⟩ := h'
    exact Sql.missing_splits stands all all' v.isTruthy

/-- documents without a first tag, with the document `null` for it and with another one -/
theorem opposite_tests_split_tags :
    let path : JsonPath := ⟨"data", "data", ["tags", "0"]⟩
    let v := Value.list [.null, .string "pen"]
    let all : List Value := [.list [.json .null, .json (.str "pen")]]
    ∃ c c' : Condition Operand, (compile ⟨path, .among⟩ v).runWith [] = (.ok c, all) ∧
      (compile ⟨path, .notAmong⟩ v).runWith [] = (.ok c', all) ∧
      ∀ row ∈ [[], [("data", .json (.obj [("tags", .arr [])]))], [("data", .json (.obj [("tags", .arr [.null])]))],
          [("data", .json (.obj [("tags", .arr [.str "book"])]))]],
        Xor (c.truth Sql.values all row = .yes) (c'.truth Sql.values all row = .yes) := by
  intro path v all
  have h : (compile ⟨path, .among⟩ v).runWith [] = (.ok _, all) := rfl
  have h' : (compile ⟨path, .notAmong⟩ v).runWith [] = (.ok _, all) := rfl
  refine ⟨_, _, h, h', fun row _ => ?_⟩
  exact opposite_tests_split (by decide) h h' Sql.values_equates (List.prefix_refl all) (List.prefix_refl all) row

end PathFilter

end Tabula
