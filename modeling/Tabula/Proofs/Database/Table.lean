import Tabula.Proofs.Database.StoredRow
import Tabula.Sql.Statement
import Mathlib.Data.List.Perm.Subperm
/-!
# Tables with many rows

What statements do to the rows of a table.  `Sense` is what a database makes of operands and operators; whatever that
is, an UPDATE or a DELETE touches the rows of its restriction, and a SELECT gives these rows without duplicates, sorted
and cut.  `Select.Gives.perm_iff`: it gives all of them just if its window cuts nothing.
-/

namespace Tabula.Sql

/-! ## Conditions on a row -/

/-- how a database with rows `ρ` reads statements: the data `δ` that operands stand for, and what comes of them -/
structure Sense (ρ δ : Type) where
  column : ρ → String → δ
  path : δ → List String → δ
  pathText : δ → List String → δ
  /-- a bound value; none under a number that nothing is bound to -/
  parameter : Option Value → δ
  upper : δ → δ
  compare : Operator → δ → δ → Truth
  among : δ → δ → Truth
  isNull : δ → Bool
  /-- the order of sort keys -/
  order : δ → δ → Ordering

variable {ρ δ : Type}

/-- what an operand stands for in a row -/
def Operand.datum (sense : Sense ρ δ) (ps : List Value) (row : ρ) : Operand → δ
  | column name => sense.column row name
  | path name segments => sense.path (sense.column row name) segments
  | pathText name segments => sense.pathText (sense.column row name) segments
  | parameter n => sense.parameter (StoredRow.parameter? ps n)

def Term.datum (sense : Sense ρ δ) (ps : List Value) (row : ρ) : Term Operand → δ
  | plain e => e.datum sense ps row
  | upper e => sense.upper (e.datum sense ps row)

namespace Condition

mutual

/-- the truth value of a condition on a row, some values being bound -/
def truth (sense : Sense ρ δ) (ps : List Value) (row : ρ) : Condition Operand → Truth
  | compare op a b => sense.compare op (a.datum sense ps row) (b.datum sense ps row)
  | among a b => sense.among (a.datum sense ps row) (b.datum sense ps row)
  | isNull e => .ofBool (sense.isNull (e.datum sense ps row))
  | isNotNull e => .ofBool !(sense.isNull (e.datum sense ps row))
  | neg c => (truth sense ps row c).not
  | group join parts => Truth.joined join (truths sense ps row parts)

def truths (sense : Sense ρ δ) (ps : List Value) (row : ρ) : List (Condition Operand) → List Truth
  | [] => []
  | c :: cs => truth sense ps row c :: truths sense ps row cs

end

end Condition

/-- whether a restriction keeps a row: only if its conditions are known to hold -/
def Restriction.keeps (sense : Sense ρ δ) (ps : List Value) (rows : Restriction) (row : ρ) : Bool :=
  match rows with
  | none => true
  | some cs => Truth.joined .and (Condition.truths sense ps row cs) = .yes

/-! ## Statements on a table -/

/-- the rows of a database that a statement changes or removes, given the rows of every table -/
def Statement.touched (sense : Sense ρ δ) (ps : List Value) (contents : String → List ρ) : Statement → List ρ
  | update table _ rows | delete table rows => (contents table).filter (Restriction.keeps sense ps rows)
  | _ => []

/-- the order of two rows by sort keys, the first key that tells them apart -/
def keyOrder (sense : Sense ρ δ) (ps : List Value) (a b : ρ) : List SortKey → Ordering
  | [] => .eq
  | k :: rest =>
    let own := sense.order (k.operand.datum sense ps a) (k.operand.datum sense ps b)
    (if k.descending then own.swap else own).then (keyOrder sense ps a b rest)

namespace Select

variable (s : Select) (sense : Sense ρ δ) (ps : List Value)

/-- the rows of the selection's restriction -/
def passing (contents : String → List ρ) : List ρ := (contents s.table).filter (Restriction.keeps sense ps s.rows)

/-- whether two rows are the same in the columns that are selected -/
def Alike (a b : ρ) : Prop := s.columns.map (sense.column a) = s.columns.map (sense.column b)

/-- one row of each kind -/
structure Kinds (rows kept : List ρ) : Prop where
  sublist : kept.Sublist rows
  apart : kept.Pairwise fun a b => ¬s.Alike sense a b
  every : ∀ a ∈ rows, ∃ b ∈ kept, s.Alike sense a b

/-- the rows within the window -/
def window (rows : List ρ) : List ρ :=
  match s.limit with
  | none => rows.drop (s.offset.getD 0)
  | some n => (rows.drop (s.offset.getD 0)).take n

/-- whether the window leaves out none of so many rows -/
def Spares (count : Nat) : Prop := count = 0 ∨ s.offset.getD 0 = 0 ∧ ∀ n, s.limit = some n → count ≤ n

/-- whether a selection can give these rows in this order.  Several orders are possible where the sort keys do not
decide, and where duplicates are dropped any row of a kind stands for the others. -/
inductive Gives (contents : String → List ρ) : List ρ → Prop where
  | stages {kept sorted : List ρ}
      (kinds : if s.distinct then s.Kinds sense (s.passing sense ps contents) kept
        else kept = s.passing sense ps contents)
      (perm : sorted.Perm kept)
      (order : ∀ keys, s.order = some keys → sorted.Pairwise fun a b => keyOrder sense ps a b keys ≠ .gt) :
    Gives contents (s.window sorted)

/-! ## What a selection gives -/

variable {s sense ps}

theorem window_sublist (rows : List ρ) : (s.window rows).Sublist rows := by
  unfold window
  split
  · exact List.drop_sublist ..
  · exact (List.take_sublist ..).trans (List.drop_sublist ..)

theorem length_window (rows : List ρ) : (s.window rows).length = rows.length ↔ s.Spares rows.length := by
  unfold window Spares
  cases s.limit with
  | none =>
    rw [List.length_drop]
    simp only [reduceCtorEq, IsEmpty.forall_iff, implies_true, and_true]
    omega
  | some n =>
    rw [List.length_take, List.length_drop]
    simp only [Option.some.injEq, forall_eq']
    omega

/-- rows that are all of different kinds are all kept -/
theorem Kinds.eq {rows kept : List ρ} (h : s.Kinds sense rows kept)
    (apart : rows.Pairwise fun a b => ¬s.Alike sense a b) : kept = rows := by
  obtain ⟨sub, -, every⟩ := h
  induction sub with
  | slnil => rfl
  | @cons kept rows a sub ih =>
    obtain ⟨b, hb, alike⟩ := every a List.mem_cons_self
    exact absurd alike (List.rel_of_pairwise_cons apart (sub.subset hb))
  | @cons_cons kept rows a sub ih =>
    have apart' := List.pairwise_cons.mp apart
    refine congrArg _ (ih apart'.2 fun b hb => ?_)
    obtain ⟨c, hc, alike⟩ := every b (List.mem_cons_of_mem _ hb)
    rcases List.mem_cons.mp hc with rfl | hc
    · exact absurd alike.symm (apart'.1 b hb)
    · exact ⟨c, hc, alike⟩

variable {contents : String → List ρ} {result : List ρ}

/-- **A selection gives no row that its restriction drops**, and none twice. -/
theorem Gives.subperm (h : s.Gives sense ps contents result) : result.Subperm (s.passing sense ps contents) := by
  obtain ⟨kinds, perm, -⟩ := h
  have cut := (window_sublist (s := s) _).subperm.trans perm.subperm
  split at kinds
  · exact cut.trans kinds.sublist.subperm
  · exact kinds ▸ cut

/-- **A selection gives every row that its restriction keeps just if its window leaves out none.**  If duplicates are
dropped, that takes rows that are all different in the columns selected. -/
theorem Gives.perm_iff (h : s.Gives sense ps contents result)
    (apart : s.distinct = true → (s.passing sense ps contents).Pairwise fun a b => ¬s.Alike sense a b) :
    result.Perm (s.passing sense ps contents) ↔ s.Spares (s.passing sense ps contents).length := by
  obtain @⟨kept, sorted, kinds, perm, -⟩ := h
  have all : kept = s.passing sense ps contents := by
    split at kinds
    · next distinct => exact kinds.eq (apart distinct)
    · exact kinds
  subst all
  rw [← perm.length_eq, ← length_window]
  constructor
  · intro same
    exact same.length_eq.trans perm.length_eq.symm
  · intro long
    rw [(window_sublist sorted).eq_of_length long]
    exact perm

end Select

end Tabula.Sql
