import Tabula.Filter.Path
import Tabula.Query.Selection
/-!
# Compiling queries

A query over a model becomes a statement with its parameters.  Filters keep their shape: a leaf becomes the
conjunction of its conditions, a branch the join of its children that have a condition, and a negated node the
negation of the whole.
-/

namespace Tabula

open Sql (Condition Operand Statement Select SortKey)

/-- a statement with its parameters -/
structure Compiled where
  statement : Statement
  parameters : List Value

/-- the text of the statement -/
def Compiled.text (c : Compiled) : String := c.statement.text

namespace Model

/-- the refusal of a key that no filter has -/
def unknownFilter (key : String) : Error := ⟨.field, "Unknown filter param '" ++ key ++ "'"⟩

/-- the condition for one key and argument -/
def condition (m : Model) (key : String) (v : Value) : Binding (Condition Operand) := do
  match m.filter? key with
  | some entry =>
    match m.field? entry.field with
    | none => throw (unknownFilter key)
    | some f =>
      let column := Operand.column entry.column
      match ← Binding.lift (entry.form.encode f v) with
      | .parameter p =>
        let n ← Binding.bind p
        return entry.lookup.condition column (.parameter n) false
      | .flag b => return entry.lookup.condition column column b
  | none =>
    match ← Binding.lift (PathFilter.parse? m key) with
    | some f => f.compile v
    | none => throw (unknownFilter key)

/-- the conditions of a leaf -/
def conditions (m : Model) : List (String × Value) → Binding (List (Condition Operand))
  | [] => return []
  | (key, v) :: rest => do
    let c ← m.condition key v
    return c :: (← m.conditions rest)

end Model

/-- a condition, negated if asked -/
def negatedIf (negated : Bool) (c : Condition Operand) : Condition Operand := if negated then .neg c else c

namespace Filter

mutual

/-- the condition of a filter; none if it has no conditions -/
def compile (m : Model) : Filter → Binding (Option (Condition Operand))
  | leaf cs _ negated => do
    let parts ← m.conditions cs
    return (Condition.joined .and parts).map (negatedIf negated)
  | branch fs join negated => do
    let parts ← compileAll m fs
    return (Condition.joined join parts).map (negatedIf negated)

/-- the conditions of several filters, those without any left out -/
def compileAll (m : Model) : List Filter → Binding (List (Condition Operand))
  | [] => return []
  | f :: fs => do
    match ← compile m f with
    | some c => return c :: (← compileAll m fs)
    | none => compileAll m fs

end

end Filter

namespace Model

/-- the rows that pass every filter -/
def restriction (m : Model) (filters : List Filter) : Binding Sql.Restriction :=
  Sql.restrict <$> Filter.compileAll m filters

/-- what a sort key stands for -/
def sortOperands (m : Model) (key : String) : Outcome (List Operand) :=
  if key = "pk" then .ok (m.key.map fun i => .column (m.column i))
  else
    match m.field? key with
    | some f => .ok [.column f.column]
    | none => do
      match ← JsonPath.resolve? m key with
      | some path => return [path.value]
      | none =>
        failure .field ("Unknown field '" ++ key ++ "' for model '" ++ m.name ++ "' in order_by")

/-- the sort keys of a selection -/
def sortKeys (m : Model) (specs : List SortSpec) : Outcome (List SortKey) :=
  (specs.mapM fun spec => (m.sortOperands spec.key).map fun ops => ops.map (⟨·, spec.descending⟩)).map
    List.flatten

/-- the columns in the order of the fields -/
def columns (m : Model) : List String := m.fields.map Field.column

/-- the rows that a selection asks for -/
def selectRows (m : Model) (s : Selection) : Binding Select := do
  let rows ← m.restriction s.filters
  let order ← Binding.lift (m.sortKeys s.ordering)
  return {
    distinct := s.distinct
    columns := m.columns
    table := m.table
    rows := rows
    order := if s.ordering.isEmpty then none else some order
    limit := s.limit
    offset := s.offset }

/-- a compilation as a statement with its parameters -/
def finished (b : Binding Statement) : Outcome Compiled := b.collect.map fun (s, ps) => ⟨s, ps⟩

/-- the statement that fetches the rows of a selection -/
def select (m : Model) (s : Selection) : Outcome Compiled := finished (Statement.select <$> m.selectRows s)

/-- the statement that counts them; the order of rows does not matter, their window does -/
def count (m : Model) (s : Selection) : Outcome Compiled :=
  if s.isWindowed then finished (Statement.countOf <$> m.selectRows { s with ordering := [] })
  else finished (Statement.count m.table <$> m.restriction s.filters)

/-- the statement that explains how they are fetched -/
def explain (m : Model) (s : Selection) : Outcome Compiled := finished (Statement.explain <$> m.selectRows s)

/-- binds the new values of columns -/
def assign (m : Model) : List (Nat × Value) → Binding (List (String × Nat))
  | [] => return []
  | (i, v) :: rest => do
    let n ← Binding.bind v
    return (m.column i, n) :: (← m.assign rest)

/-- the statement that sets fields, by position, in every row that passes the filters -/
def updateWhere (m : Model) (assignments : List (Nat × Value)) (filters : List Filter) : Outcome Compiled :=
  if assignments.isEmpty then failure .params "update requires at least one field"
  else finished do
    let sets ← m.assign assignments
    return .update m.table sets (← m.restriction filters)

/-- the statement that deletes every row that passes the filters -/
def deleteWhere (m : Model) (filters : List Filter) : Outcome Compiled :=
  finished (Statement.delete m.table <$> m.restriction filters)

/-! ## Statements about one row -/

/-- the rows whose columns equal the parameters from `first` on -/
def rowsEqual (m : Model) (first : Nat) (positions : List Nat) : Sql.Restriction :=
  some (positions.zipIdx.map fun (i, k) =>
    .compare .equal (.plain (.column (m.column i))) (.plain (.parameter (first + k))))

/-- inserts a row; parameters are the fields that the database does not make itself -/
def insertRow (m : Model) : Statement :=
  .insert m.table (m.insertPositions.map m.column) (m.returningPositions.map m.column)

/-- sets fields of the row with a key; parameters are the fields, the key, then the conditions -/
def updateRow (m : Model) (fields conditions : List Nat) : Statement :=
  .update m.table (fields.zipIdx.map fun (i, k) => (m.column i, k + 1))
    (m.rowsEqual (fields.length + 1) (m.key ++ conditions))

/-- deletes the row with a key -/
def deleteRow (m : Model) : Statement := .delete m.table (m.rowsEqual 1 m.key)

/-- fetches the row with a key -/
def selectRow (m : Model) : Statement :=
  .select { columns := m.columns, table := m.table, rows := m.rowsEqual 1 m.key }

end Model

end Tabula
