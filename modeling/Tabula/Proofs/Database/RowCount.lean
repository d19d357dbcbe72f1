import Tabula.Proofs.Database.Table
import Mathlib.Data.List.Dedup
import Mathlib.Data.List.Perm.Basic
/-!
# How many rows there are

A selection may give different rows in different orders, but always the same number of them: `Select.Gives.length_eq`.
A statement that counts gives one number, that of the rows of its restriction or of its selection.
-/

namespace Tabula.Sql

variable {ρ δ : Type}

namespace Select

variable (s : Select) (sense : Sense ρ δ) (ps : List Value) (contents : String → List ρ)

open Classical in
/-- the number of rows before the window is cut: those that pass, or one for each kind if duplicates are dropped -/
noncomputable def size : Nat :=
  let rows := s.passing sense ps contents
  if s.distinct then (rows.map fun row => s.columns.map (sense.column row)).dedup.length else rows.length

/-- how many of so many rows are in the window -/
def cut (count : Nat) : Nat :=
  match s.limit with
  | none => count - s.offset.getD 0
  | some n => min n (count - s.offset.getD 0)

variable {s sense ps contents}

theorem length_window_eq_cut (rows : List ρ) : (s.window rows).length = s.cut rows.length := by
  unfold window cut
  cases s.limit with
  | none => exact List.length_drop
  | some n => rw [List.length_take, List.length_drop]

/-- the window is empty if it is made so or lies beyond the last row -/
theorem cut_pos {count : Nat} : 0 < s.cut count ↔ s.limit ≠ some 0 ∧ s.offset.getD 0 < count := by
  unfold cut
  cases s.limit with
  | none =>
    rw [Nat.sub_pos_iff_lt]
    exact (and_iff_right (nomatch ·)).symm
  | some n => rw [Nat.lt_min, Nat.sub_pos_iff_lt, ne_eq, Option.some.injEq, Nat.pos_iff_ne_zero]

open Classical in
/-- however the rows that stand for their kinds are chosen, they are as many as the kinds -/
theorem Kinds.length_eq {rows kept : List ρ} (h : s.Kinds sense rows kept) :
    kept.length = (rows.map fun row => s.columns.map (sense.column row)).dedup.length := by
  let kind : ρ → List δ := fun row => s.columns.map (sense.column row)
  have apart : (kept.map kind).Nodup := List.pairwise_map.mpr h.apart
  have same : (kept.map kind).Perm (rows.map kind).dedup := by
    rw [List.perm_ext_iff_of_nodup apart (List.nodup_dedup _)]
    intro k
    rw [List.mem_dedup, List.mem_map, List.mem_map]
    constructor
    · rintro ⟨a, ha, rfl⟩
      exact ⟨a, h.sublist.subset ha, rfl⟩
    · rintro ⟨a, ha, rfl⟩
      obtain ⟨b, hb, alike⟩ := h.every a ha
      exact ⟨b, hb, alike.symm⟩
  rw [← same.length_eq, List.length_map]

/-- **A selection always gives the same number of rows**: as many as its window leaves of those that there are. -/
theorem Gives.length_eq {result : List ρ} (h : s.Gives sense ps contents result) :
    result.length = s.cut (s.size sense ps contents) := by
  obtain @⟨kept, sorted, kinds, perm, -⟩ := h
  have all : kept.length = s.size sense ps contents := by
    unfold size
    split at kinds
    · next distinct =>
      rw [if_pos distinct]
      exact kinds.length_eq
    · next distinct => rw [if_neg distinct, kinds]
  rw [length_window_eq_cut, perm.length_eq, all]

/-- there are rows that stand for their kinds -/
theorem exists_kinds (s : Select) (sense : Sense ρ δ) (rows : List ρ) : ∃ kept, s.Kinds sense rows kept := by
  induction rows with
  | nil => exact ⟨[], .slnil, .nil, nofun⟩
  | cons a rows ih =>
    obtain ⟨kept, sublist, apart, every⟩ := ih
    by_cases stands : ∃ b ∈ kept, s.Alike sense a b
    · refine ⟨kept, sublist.cons a, apart, fun c hc => ?_⟩
      rcases List.mem_cons.mp hc with rfl | hc
      · exact stands
      · exact every c hc
    · refine ⟨a :: kept, sublist.cons_cons a, .cons (fun b hb alike => stands ⟨b, hb, alike⟩) apart, fun c hc => ?_⟩
      rcases List.mem_cons.mp hc with rfl | hc
      · exact ⟨c, List.mem_cons_self, rfl⟩
      · obtain ⟨b, hb, alike⟩ := every c hc
        exact ⟨b, List.mem_cons_of_mem _ hb, alike⟩

/-- a selection without sort keys gives some rows -/
theorem exists_gives (unsorted : s.order = none) : ∃ result, s.Gives sense ps contents result := by
  have sorted (rows : List ρ) : ∀ keys, s.order = some keys →
      rows.Pairwise fun a b => keyOrder sense ps a b keys ≠ .gt := by
    intro keys h
    rw [unsorted] at h
    cases h
  by_cases distinct : s.distinct = true
  · obtain ⟨kept, kinds⟩ := s.exists_kinds sense (s.passing sense ps contents)
    exact ⟨_, .stages (by rw [if_pos distinct]; exact kinds) (.refl _) (sorted kept)⟩
  · exact ⟨_, .stages (by rw [if_neg distinct]) (.refl _) (sorted _)⟩

end Select

/-! ## Statements that count -/

/-- whether a statement counts rows and can come to a number -/
inductive Statement.Counts (sense : Sense ρ δ) (ps : List Value) (contents : String → List ρ) :
    Statement → Nat → Prop where
  | passing (table : String) (rows : Restriction) :
    Counts sense ps contents (.count table rows) ((contents table).filter (rows.keeps sense ps)).length
  | given {s : Select} {result : List ρ} (gives : s.Gives sense ps contents result) :
    Counts sense ps contents (.countOf s) result.length

namespace Statement

variable {sense : Sense ρ δ} {ps : List Value} {contents : String → List ρ} {n : Nat}

theorem counts_count {table : String} {rows : Restriction} :
    (Statement.count table rows).Counts sense ps contents n ↔
      n = ((contents table).filter (rows.keeps sense ps)).length := by
  constructor
  · rintro ⟨⟩
    rfl
  · rintro rfl
    exact .passing table rows

/-- rows are counted whatever their order -/
theorem counts_countOf {s : Select} (unsorted : s.order = none) :
    (Statement.countOf s).Counts sense ps contents n ↔ n = s.cut (s.size sense ps contents) := by
  constructor
  · intro h
    cases h with
    | given gives => exact gives.length_eq
  · rintro rfl
    obtain ⟨result, gives⟩ : ∃ result, s.Gives sense ps contents result := Select.exists_gives unsorted
    exact gives.length_eq ▸ .given gives

end Statement

end Tabula.Sql
