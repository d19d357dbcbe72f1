import Tabula.Mapper
import Tabula.Proofs.Model.Built
import Tabula.Proofs.Sql.RowStatement
import Tabula.Proofs.Sql.Truth
/-!
# A table with one row

`StoredRow` is a table of one row that answers the statements of a mapper: it reads the text of a statement and runs
it in one step.  A row is touched if every equation of the statement holds of it, in the logic of three truth values.
`StoredRow.query_selectRow` and `StoredRow.execute_updateRow` say what this comes to for the statements of a model.
-/

namespace Tabula

open Sql (Equation RowStatement Truth)

/-! ## Cells -/

/-- values with others set at their positions, one after the other -/
def assign (values : List Value) (pairs : List (Nat × Value)) : List Value :=
  pairs.foldl (fun vs e => vs.set e.1 e.2) values

theorem length_assign (values : List Value) (pairs : List (Nat × Value)) :
    (assign values pairs).length = values.length := by
  induction pairs generalizing values with
  | nil => rfl
  | cons e rest ih => exact (ih _).trans List.length_set

/-- where nothing is set, the value stays; elsewhere it is one of those set -/
theorem assign_cases {values : List Value} {pairs : List (Nat × Value)} {p : Nat} {v : Value}
    (h : (assign values pairs)[p]? = some v) :
    (p, v) ∈ pairs ∨ values[p]? = some v ∧ p ∉ pairs.map Prod.fst := by
  induction pairs generalizing values with
  | nil => exact .inr ⟨h, by simp⟩
  | cons e rest ih =>
    rcases ih h with hm | ⟨hv, hn⟩
    · exact .inl (List.mem_cons_of_mem _ hm)
    · by_cases he : e.1 = p
      · subst he
        rw [List.getElem?_set_self' ] at hv
        obtain ⟨_, _, rfl⟩ := Option.map_eq_some_iff.mp hv
        exact .inl List.mem_cons_self
      · rw [List.getElem?_set_ne he] at hv
        refine .inr ⟨hv, ?_⟩
        rw [List.map_cons, List.mem_cons, not_or]
        exact ⟨Ne.symm he, hn⟩

/-- whether two cells are equal, as a database has it: a missing one is not known to equal anything -/
def Value.equals (a b : Value) : Truth := if a.isNull || b.isNull then .unknown else .ofBool (a.same b)

theorem Value.equals_yes {a b : Value} : a.equals b = .yes ↔ a.isNull = false ∧ b.isNull = false ∧ a.same b = true := by
  unfold equals
  cases a.isNull <;> cases b.isNull <;> cases a.same b <;> decide

/-! ## The table -/

/-- a table with one row, and how often an update has found the row -/
structure StoredRow where
  database : Database
  table : String
  columns : List String
  cells : List Value
  updates : Nat := 0

namespace StoredRow

/-- the parameter of a number; numbers begin with one -/
def parameter? (parameters : List Value) : Nat → Option Value
  | 0 => none
  | n + 1 => parameters[n]?

/-- a column and a parameter as a position and a value -/
def resolve? (row : StoredRow) (parameters : List Value) (e : Equation) : Option (Nat × Value) := do
  let position ← row.columns.idxOf? e.1
  let v ← parameter? parameters e.2
  return (position, v)

/-- the cells of some columns -/
def cellsOf? (row : StoredRow) (columns : List String) : Option (List Value) :=
  columns.mapM fun c => (row.columns.idxOf? c).bind (row.cells[·]?)

/-- whether the row has just these values at their positions -/
def agrees (row : StoredRow) (pairs : List (Nat × Value)) : Bool :=
  Truth.joined .and (pairs.map fun e => (row.cells.getD e.1 .null).equals e.2) = .yes

/-- the row after an update -/
def updated (row : StoredRow) (pairs : List (Nat × Value)) : StoredRow :=
  { row with cells := assign row.cells pairs, updates := row.updates + 1 }

/-- a statement about another table, column or parameter, or one that is not understood -/
def refusal : Error := ⟨.operational, "statement refused"⟩

/-- runs a statement that fetches -/
def query (row : StoredRow) (text : String) (parameters : List Value) : Outcome (List Row) :=
  match RowStatement.ofText? text with
  | some (.fetch columns table rows) =>
    match rows.mapM (row.resolve? parameters), row.cellsOf? columns with
    | some pairs, some cells =>
      if table ≠ row.table then .error refusal
      else .ok (if row.agrees pairs then [⟨columns, cells⟩] else [])
    | _, _ => .error refusal
  | _ => .error refusal

/-- runs a statement that changes; counts the rows -/
def execute (row : StoredRow) (text : String) (parameters : List Value) : Outcome Nat × StoredRow :=
  match RowStatement.ofText? text with
  | some (.change table sets rows) =>
    match rows.mapM (row.resolve? parameters), sets.mapM (row.resolve? parameters) with
    | some pairs, some new =>
      if table ≠ row.table then (.error refusal, row)
      else if row.agrees pairs then (.ok 1, row.updated new)
      else (.ok 0, row)
    | _, _ => (.error refusal, row)
  | _ => (.error refusal, row)

/-- answers calls: statements on its own database are run, anything else is refused -/
def answer (row : StoredRow) : (call : Call) → call.Answer × StoredRow
  | .execute on _ text parameters => if on = row.database then row.execute text parameters else (.error refusal, row)
  | .query on _ text parameters => (if on = row.database then row.query text parameters else .error refusal, row)
  | .executeMany .. => (.error refusal, row)
  | .script .. | .close _ | .commit _ | .rollback _ => (.error refusal, row)
  | .begin _ => (.error refusal, row)
  | .release _ | .discard _ => ((), row)

theorem run_query (row : StoredRow) (active : Active) (text : String) (parameters : List Value) :
    Dialogue.run answer row (row.database.query active text parameters) = (row.query text parameters, row) := by
  unfold Database.query
  simp only [Dialogue.run, answer, ↓reduceIte]

theorem run_execute (row : StoredRow) (active : Active) (text : String) (parameters : List Value) :
    Dialogue.run answer row (row.database.execute active text parameters) = row.execute text parameters := by
  unfold Database.execute
  simp only [Dialogue.run, answer, ↓reduceIte]

/-! ## Tables of models -/

/-- whether the row is one of a model's table -/
structure IsOf (row : StoredRow) (m : Model) : Prop where
  table : row.table = m.table
  columns : row.columns = m.columns
  length : row.cells.length = m.fields.length

end StoredRow

namespace Model

variable {m : Model}

/-- equations of columns with parameters numbered from `first` on -/
def numbered (m : Model) (first : Nat) (positions : List Nat) : List Equation :=
  positions.zipIdx.map fun (p, k) => (m.column p, first + k)

theorem numbered_cons (first p : Nat) (rest : List Nat) :
    m.numbered first (p :: rest) = (m.column p, first) :: m.numbered (first + 1) rest := by
  rw [numbered, List.zipIdx_cons, List.map_cons, List.zipIdx_succ, List.map_map, numbered]
  refine congrArg (List.cons _) (List.map_congr_left fun e _ => ?_)
  simp only [Function.comp_apply, Prod.mk.injEq, true_and]
  omega

theorem numbered_ne_nil (first : Nat) {positions : List Nat} (h : positions ≠ []) :
    m.numbered first positions ≠ [] := by
  simpa [numbered] using h

theorem rowsEqual_eq (first : Nat) (positions : List Nat) :
    m.rowsEqual first positions = some ((m.numbered first positions).map Equation.condition) := by
  rw [rowsEqual, numbered, List.map_map]
  rfl

theorem selectRow_eq : m.selectRow =
    .select { columns := m.columns, table := m.table, rows := some ((m.numbered 1 m.key).map Equation.condition) } := by
  rw [selectRow, rowsEqual_eq]

theorem updateRow_eq (fields conditions : List Nat) : m.updateRow fields conditions =
    .update m.table (m.numbered 1 fields)
      (some ((m.numbered (fields.length + 1) (m.key ++ conditions)).map Equation.condition)) := by
  rw [updateRow, rowsEqual_eq, numbered]
  congr 1
  exact List.map_congr_left fun e _ => Prod.ext rfl (Nat.add_comm ..)

/-- a column of a sound model is found where it is -/
theorem idxOf_column (h : m.Sound) {p : Nat} (hp : p < m.fields.length) : m.columns.idxOf? (m.column p) = some p := by
  have column : m.column p = m.fields[p].column := by simp [column, hp]
  rw [List.idxOf?_eq_some_iff]
  have lt : p < m.columns.length := by simpa [columns] using hp
  refine ⟨lt, by simp [columns, column], fun j hj same => ?_⟩
  have there : m.columns[j]? = m.columns[p]? := by
    rw [List.getElem?_eq_getElem (Nat.lt_trans hj lt), same, column]
    simp [columns, hp]
  have twice := (List.getElem?_inj (Nat.lt_trans hj lt) h.columns).mp there
  omega

end Model

namespace StoredRow

variable {row : StoredRow} {m : Model}

theorem IsOf.updated (h : row.IsOf m) (pairs : List (Nat × Value)) : (row.updated pairs).IsOf m :=
  ⟨h.table, h.columns, (length_assign ..).trans h.length⟩

theorem agrees_iff {pairs : List (Nat × Value)} :
    row.agrees pairs = true ↔ ∀ e ∈ pairs, (row.cells.getD e.1 .null).equals e.2 = .yes := by
  rw [agrees, decide_eq_true_iff, Truth.all_eq_yes, List.forall_mem_map]

/-- numbered equations stand for the positions with the parameters of these numbers -/
theorem resolve_numbered (hr : row.IsOf m) (hm : m.Sound) (parameters : List Value) {positions : List Nat}
    {values : List Value} (first : Nat) (length : positions.length = values.length)
    (hp : ∀ p ∈ positions, p < m.fields.length)
    (hv : ∀ k v, values[k]? = some v → parameter? parameters (first + k) = some v) :
    (m.numbered first positions).mapM (row.resolve? parameters) = some (positions.zip values) := by
  induction positions generalizing values first with
  | nil => rfl
  | cons p rest ih =>
    cases values with
    | nil => simp at length
    | cons v values =>
      have now : row.resolve? parameters (m.column p, first) = some (p, v) := by
        have parameter := hv 0 v rfl
        rw [Nat.add_zero] at parameter
        simp [resolve?, hr.columns, Model.idxOf_column hm (hp p List.mem_cons_self), parameter]
      have later := ih (first + 1) (by simpa using length) (fun q hq => hp q (List.mem_cons_of_mem _ hq))
        fun k w hw => by
          rw [Nat.add_assoc, Nat.add_comm 1]
          exact hv (k + 1) w hw
      rw [Model.numbered_cons, List.mapM_cons, now, later]
      rfl

/-- all columns of the model stand for all cells -/
theorem cellsOf_columns (hr : row.IsOf m) (hm : m.Sound) : row.cellsOf? m.columns = some row.cells := by
  refine mapM_some_iff.mpr (List.forall₂_iff_get.mpr ?_)
  refine ⟨by simp [Model.columns, hr.length], fun p hp hc => ?_⟩
  have lt : p < m.fields.length := by simpa [Model.columns] using hp
  have column : m.columns.get ⟨p, hp⟩ = m.column p := by simp [Model.columns, Model.column, lt]
  rw [column, hr.columns, Model.idxOf_column hm lt, Option.bind_some]
  exact List.getElem?_eq_getElem hc

/-- **A fetch by the key gives the row or nothing.** -/
theorem query_selectRow (hr : row.IsOf m) (hm : m.Sound) (hk : m.key ≠ []) {parameters : List Value}
    {rows : List Row} (h : row.query m.selectRow.text parameters = .ok rows) :
    rows = [] ∨ rows = [⟨m.columns, row.cells⟩] := by
  have fields : m.columns ≠ [] := by
    obtain ⟨p, rest, hp⟩ := List.exists_cons_of_ne_nil hk
    have lt := hm.key_lt p (by simp [hp])
    intro empty
    have none : m.fields = [] := by simpa [Model.columns] using empty
    simp [none] at lt
  have read := RowStatement.ofText_select m.table fields (m.numbered_ne_nil 1 hk)
  rw [← Model.selectRow_eq] at read
  unfold query at h
  simp only [read, cellsOf_columns hr hm] at h
  split at h
  · next pairs cells _ hc =>
    injection hc with hc
    split at h
    · simp at h
    · injection h with h
      rw [← h, ← hc]
      split
      · exact .inr rfl
      · exact .inl rfl
  · simp at h

/-- **An update finds the row just if the row has the key and the values compared.**  Then it sets the fields. -/
theorem execute_updateRow (hr : row.IsOf m) (hm : m.Sound) {fields : List Nat} (conditions : List Nat)
    {new : List Value} (compared : List Value)
    (hf : ∀ p ∈ fields, p < m.fields.length) (hc : ∀ p ∈ conditions, p < m.fields.length) (hne : fields ≠ [])
    (hw : m.key ++ conditions ≠ []) (hn : fields.length = new.length)
    (hl : (m.key ++ conditions).length = compared.length) :
    row.execute (m.updateRow fields conditions).text (new ++ compared) =
      if row.agrees ((m.key ++ conditions).zip compared) then (.ok 1, row.updated (fields.zip new))
      else (.ok 0, row) := by
  have inside : ∀ p ∈ m.key ++ conditions, p < m.fields.length := fun p hp =>
    (List.mem_append.mp hp).elim (hm.key_lt p) (hc p)
  have read := RowStatement.ofText_update m.table (m.numbered_ne_nil 1 hne)
    (m.numbered_ne_nil (fields.length + 1) hw)
  rw [← Model.updateRow_eq] at read
  have rows := resolve_numbered hr hm (new ++ compared) (fields.length + 1) hl inside fun k v hv => by
    rw [Nat.add_right_comm]
    simpa [parameter?, hn, List.getElem?_append_right] using hv
  have sets := resolve_numbered hr hm (new ++ compared) 1 hn hf fun k v hv => by
    rw [Nat.add_comm, parameter?, List.getElem?_append_left (List.getElem?_eq_some_iff.mp hv).1, hv]
  unfold execute
  simp only [read, rows, sets, hr.table, ne_eq, not_true_eq_false, if_false]

end StoredRow

end Tabula
