import Tabula.Proofs.Database.RowCount
import Tabula.Proofs.Filter.Opposites
/-!
# Looking up rows by values

A row is looked up by values under the names of fields.  `Model.matching` are the rows that a lookup keeps: those whose
columns equal what is stored for the values, so none if a value is missing.  A query for two of them tells whether there
is none, one or several.
-/

namespace Tabula

open Sql (Condition Operand Select Sense Truth)

variable {ρ δ : Type} {sense : Sense ρ δ} {m : Model} {lookup : List (String × Value)} {ps qs all : List Value}
  {row : ρ} {rows rows' : List ρ} {c : Compiled}

/-! ## Conjunctions of conditions -/

/-- a conjunction holds if all its parts do -/
theorem Sql.Condition.truth_joined_and (parts : List (Condition Operand)) :
    (∀ c ∈ Condition.joined .and parts, c.truth sense all row = .yes) ↔ ∀ c ∈ parts, c.truth sense all row = .yes := by
  match parts with
  | [] => simp [Condition.joined]
  | [c] => simp [Condition.joined]
  | c :: d :: rest =>
    have whole : (Condition.group .and (c :: d :: rest)).truth sense all row =
        Truth.joined .and ((c :: d :: rest).map (Condition.truth sense all row)) := by
      rw [Condition.truth, Condition.truths_eq]
    simp only [Condition.joined, Option.mem_def, Option.some.injEq, forall_eq', whole, Truth.all_eq_yes,
      List.forall_mem_map]

/-! ## What a lookup keeps -/

/-- what a database promises of the equality of bound values: none is known to equal a missing one, and every other one
equals itself -/
structure Sql.Sense.Matches (sense : Sense ρ δ) : Prop where
  missing : ∀ d v, v.isNull = true → sense.compare .equal d (sense.parameter (some v)) ≠ .yes
  itself : ∀ v, v.isNull = false → sense.compare .equal (sense.parameter (some v)) (sense.parameter (some v)) = .yes

/-- the selection that tells whether there is none, one or several rows with the values -/
def Selection.lookingUp (lookup : List (String × Value)) : Selection := { filters := [.ofPairs lookup], limit := some 2 }

namespace Model

/-- whether each name is that of a field and stands for the exact lookup of this field -/
def Named (m : Model) (lookup : List (String × Value)) : Prop :=
  ∀ l ∈ lookup, ∃ f, m.field? l.1 = some f ∧ m.filter? l.1 = some (f.entry ("", .exact, .field))

/-- every field of a model without ambiguous names is looked up by its name -/
theorem named_of_unambiguous (h : m.Unambiguous) (declared : ∀ l ∈ lookup, ∃ f ∈ m.fields, f.name = l.1) :
    m.Named lookup := by
  intro l hl
  obtain ⟨f, hf, named⟩ := declared l hl
  obtain ⟨p, there⟩ := List.getElem?_of_mem hf
  have field := (inverts_of_nodup (nodup_names_of_unambiguous h)).field p f there
  have listed : (f.name, f) ∈ m.filterNames := List.mem_append_left _ (List.mem_map_of_mem hf)
  have found := filter_of_unambiguous h listed f.exact_mem_lookups
  rw [String.append_empty] at found
  exact ⟨f, named ▸ field, named ▸ found⟩

/-- whether a row has in the columns of the named fields what is stored for the values -/
def Matched (m : Model) (sense : Sense ρ δ) (lookup : List (String × Value)) (row : ρ) : Prop :=
  ∀ l ∈ lookup, ∀ f, m.field? l.1 = some f → ∃ p, f.toStorage l.2 = .ok p ∧
    sense.compare .equal (sense.column row f.column) (sense.parameter (some p)) = .yes

/-- a row that is matched has no missing value looked up in it -/
theorem Matched.present (promise : sense.Matches) (named : m.Named lookup) (matched : m.Matched sense lookup row)
    {l : String × Value} (hl : l ∈ lookup) : l.2.isNull = false := by
  obtain ⟨f, field, _⟩ := named l hl
  obtain ⟨p, stores, equal⟩ := matched l hl f field
  rw [← Bool.not_eq_true, ← Field.isNull_of_toStorage stores]
  exact fun missing => promise.missing _ p missing equal

/-- the conditions of named values hold in the rows that are matched -/
theorem conditions_matched (named : m.Named lookup) {cs : List (Condition Operand)}
    (h : (m.conditions lookup).runWith ps = (.ok cs, qs)) (behind : qs <+: all) (row : ρ) :
    (∀ c ∈ cs, c.truth sense all row = .yes) ↔ m.Matched sense lookup row := by
  induction lookup generalizing ps cs with
  | nil =>
    simp only [conditions, Binding.runWith_pure, Prod.mk.injEq, Except.ok.injEq] at h
    simp [← h.1, Matched]
  | cons l rest ih =>
    obtain ⟨c, ds, rs, hc, hd, rfl⟩ := conditions_cons_ok h
    obtain ⟨⟨f, field, found⟩, named⟩ := List.forall_mem_cons.mp named
    have later := ih named hd
    have own : m.field? f.name = some f := (name_of_field field).symm ▸ field
    rw [condition_of_entry own found] at hc
    obtain ⟨p, stores, rfl, rfl⟩ := Field.condition_stored hc
    obtain ⟨_, bound, rfl, _⟩ := conditions_sites hd
    have first : (Condition.compare .equal (.plain (.column f.column)) (.plain (.parameter (ps.length + 1)))).truth
        sense all row = sense.compare .equal (sense.column row f.column) (sense.parameter (some p)) :=
      Sql.Condition.truth_compare (fun _ => rfl) ((List.prefix_append (ps ++ [p]) bound).trans behind) .equal
    have split : m.Matched sense (l :: rest) row ↔ (∀ f, m.field? l.1 = some f → ∃ p, f.toStorage l.2 = .ok p ∧
        sense.compare .equal (sense.column row f.column) (sense.parameter (some p)) = .yes) ∧ m.Matched sense rest row :=
      List.forall_mem_cons
    rw [List.forall_mem_cons, later, split]
    refine and_congr_left fun _ => ⟨fun equal g hg => ?_, fun each => ?_⟩
    · obtain rfl := Option.some.inj (field.symm.trans hg)
      exact ⟨p, stores, first.symm.trans equal⟩
    · obtain ⟨q, stores', equal⟩ := each f field
      obtain rfl := Except.ok.inj (stores.symm.trans stores')
      exact first.trans equal

/-- whether a query asks for two at most of the rows that are matched -/
structure LooksUp (m : Model) (lookup : List (String × Value)) (ps : List Value) (s : Select) : Prop where
  table : s.table = m.table
  distinct : s.distinct = false
  limit : s.limit = some 2
  offset : s.offset = none
  keeps : ∀ {ρ δ : Type} (sense : Sense ρ δ) (row : ρ),
    s.rows.keeps sense ps row = true ↔ m.Matched sense lookup row

/-- what a lookup compiles to -/
theorem select_lookingUp (named : m.Named lookup) (h : m.select (.lookingUp lookup) = .ok c) :
    ∃ s ps, c = ⟨.select s, ps⟩ ∧ m.LooksUp lookup ps s := by
  obtain ⟨rows, order, restricts, _, same⟩ := select_iff.mp h
  refine ⟨_, _, same, rfl, rfl, rfl, rfl, fun sense row => ?_⟩
  obtain ⟨cs, compiles, rfl⟩ := Binding.runWith_map_ok restricts
  obtain ⟨d, ds, rs, hd, hds, rfl⟩ := Filter.compileAll_cons_ok compiles
  simp only [Filter.compileAll, Binding.runWith_pure, Prod.mk.injEq, Except.ok.injEq] at hds
  obtain ⟨rfl, rfl⟩ := hds
  obtain ⟨parts, conditions, rfl⟩ := Binding.runWith_seq_pure_ok hd
  rw [← conditions_matched named conditions (List.prefix_refl _), ← Sql.Condition.truth_joined_and, selected,
    List.append_nil, Sql.Restriction.keeps_option]
  simp [negatedIf]

/-- the rows that a lookup keeps -/
def matching (m : Model) (sense : Sense ρ δ) (lookup : List (String × Value)) (rows : List ρ) : List ρ :=
  match m.select (.lookingUp lookup) with
  | .ok ⟨.select s, ps⟩ => s.passing sense ps fun _ => rows
  | _ => []

theorem matching_eq {s : Select} (h : m.select (.lookingUp lookup) = .ok ⟨.select s, ps⟩) (sense : Sense ρ δ)
    (rows : List ρ) : m.matching sense lookup rows = s.passing sense ps fun _ => rows := by
  rw [matching, h]

/-- nothing is found under a missing value -/
theorem matching_of_missing (promise : sense.Matches) (named : m.Named lookup) (missing : ∃ l ∈ lookup, l.2.isNull = true)
    (rows : List ρ) : m.matching sense lookup rows = [] := by
  cases h : m.select (.lookingUp lookup) with
  | error e => rw [matching, h]
  | ok c =>
    obtain ⟨s, ps, rfl, looks⟩ := select_lookingUp named h
    rw [matching_eq h]
    refine List.filter_eq_nil_iff.mpr fun row _ kept => ?_
    obtain ⟨l, hl, null⟩ := missing
    have present := ((looks.keeps sense row).mp kept).present promise named hl
    rw [null] at present
    cases present

/-- a row that is added is looked up if it is matched -/
theorem matching_added (named : m.Named lookup) (h : m.select (.lookingUp lookup) = .ok c)
    (none : m.matching sense lookup rows = []) (added : rows'.Perm (row :: rows)) (matched : m.Matched sense lookup row) :
    m.matching sense lookup rows' = [row] := by
  obtain ⟨s, ps, rfl, looks⟩ := select_lookingUp named h
  rw [matching_eq h] at none ⊢
  have kept := added.filter (s.rows.keeps sense ps)
  rw [List.filter_cons_of_pos ((looks.keeps sense row).mpr matched)] at kept
  change rows.filter _ = [] at none
  rw [none] at kept
  exact List.perm_singleton.mp kept

end Model

/-- two rows at most tell whether there is none or one -/
theorem Sql.Select.Gives.tells {s : Select} {contents : String → List ρ} {given : List ρ}
    (gives : s.Gives sense all contents given) (distinct : s.distinct = false) (limit : s.limit = some 2)
    (offset : s.offset = none) :
    (given = [] ↔ s.passing sense all contents = []) ∧ ∀ a, given = [a] ↔ s.passing sense all contents = [a] := by
  have length : given.length = min 2 (s.passing sense all contents).length := by
    rw [gives.length_eq, size, distinct, cut, limit, offset]
    rfl
  have among := gives.subperm.subset
  constructor
  · rw [← List.length_eq_zero_iff, ← List.length_eq_zero_iff, length]
    omega
  · intro a
    constructor
    · rintro rfl
      obtain ⟨b, one⟩ := List.length_eq_one_iff.mp (show (s.passing sense all contents).length = 1 by
        rw [List.length_singleton] at length
        omega)
      rw [one] at among ⊢
      rw [List.mem_singleton.mp (among List.mem_cons_self)]
    · intro one
      rw [one] at length among
      obtain ⟨b, rfl⟩ := List.length_eq_one_iff.mp (length : given.length = 1)
      rw [List.mem_singleton.mp (among List.mem_cons_self)]

end Tabula
