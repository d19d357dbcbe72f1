import Tabula.Postgres.Engine.Basic
import Tabula.Row
/-!
# Statements on a connection

A statement is prepared once on each connection; its parameters are brought into the types that the server expects
and the cells of its rows are read by the types of its columns.
-/

namespace Tabula.Postgres.Engine

/-- what the server knows of a statement; a connection is asked once -/
def prepare (c : Nat) (statement : String) : Operation Prepared := do
  match (← get).prepared.lookup (c, statement) with
  | some p => return p
  | none =>
    let p ← settled (← ask (.prepare c statement))
    modify fun e => { e with prepared := e.prepared ++ [((c, statement), p)] }
    return p

/-- the cells of parameters, the first at the given position -/
def encodeFrom (position : Nat) : List (ColumnType × Value) → Except Fault (List Cell)
  | [] => .ok []
  | (t, v) :: rest =>
    match Parameter.bind? t v with
    | none => .error (.parameter position)
    | some cell => (encodeFrom (position + 1) rest).map (cell :: ·)

/-- the cells of the parameters of a statement -/
def encodeAll (p : Prepared) (parameters : List Value) : Except Fault (List Cell) :=
  if p.parameters.length = parameters.length then encodeFrom 0 (p.parameters.zip parameters)
  else .error (.parameterCount p.parameters.length parameters.length)

/-- the value of a cell in a row -/
def cellValue (position : Nat) (column : String × ColumnType) (cell : Cell) : Outcome Value :=
  match Cell.decode column.2 cell with
  | .ok v => .ok v
  | .error .unsupported =>
    failure .database ("unsupported column type '" ++ column.2.label ++ "' for column '" ++ column.1 ++ "'")
  | .error .malformed => .error (Fault.cell position).toError

/-- the values of a row, the first at the given position -/
def decodeFrom (position : Nat) : List ((String × ColumnType) × Cell) → Outcome (List Value)
  | [] => .ok []
  | (column, cell) :: rest => do
    let v ← cellValue position column cell
    return v :: (← decodeFrom (position + 1) rest)

/-- the row of the cells of a statement's columns -/
def decodeRow (p : Prepared) (cells : List Cell) : Outcome Row := do
  return ⟨p.columns.map Prod.fst, ← decodeFrom 0 (p.columns.zip cells)⟩

/-- goes on with an outcome -/
def outcome {α : Type} : Outcome α → Operation α
  | .ok a => pure a
  | .error e => throw (.failed e)

/-- runs a prepared statement -/
def runPrepared (c : Nat) (statement : String) (p : Prepared) (parameters : List Value) : Operation Nat := do
  let cells ← settled (.arrived (encodeAll p parameters))
  settled (← ask (.execute c statement cells))

/-- runs a statement and counts the rows it touched -/
def executeOn (c : Nat) (statement : String) (parameters : List Value) : Operation Nat := do
  let p ← prepare c statement
  runPrepared c statement p parameters

/-- runs a statement and fetches rows -/
def queryOn (c : Nat) (statement : String) (parameters : List Value) : Operation (List Row) := do
  let p ← prepare c statement
  let cells ← settled (.arrived (encodeAll p parameters))
  let rows ← settled (← ask (.fetch c statement cells))
  outcome (rows.mapM (decodeRow p))

/-- runs a prepared statement for each list of parameters and adds the counts -/
def runRows (c : Nat) (statement : String) (p : Prepared) (total : Nat) : List (List Value) → Operation Nat
  | [] => pure total
  | parameters :: rest => do
    let n ← runPrepared c statement p parameters
    runRows c statement p (total + n) rest

/-- runs a statement once for each list of parameters -/
def executeManyOn (c : Nat) (statement : String) (rows : List (List Value)) : Operation Nat := do
  let p ← prepare c statement
  runRows c statement p 0 rows

/-- runs statements without parameters -/
def scriptOn (c : Nat) (text : String) : Operation Unit := do settled (← ask (.batch c text))

end Tabula.Postgres.Engine
