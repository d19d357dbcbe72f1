import Tabula.Database.Call
import Tabula.Instance.Basic
import Tabula.Query.Compile
import Tabula.Schema.Definition
/-!
# Mappers

A mapper runs the statements of one entity on one database and turns rows into instances.  The text of a
statement about one row depends only on which fields are involved; a mapper makes it on first use and keeps it.
-/

namespace Tabula

/-- fields that are set and fields that are compared, by position -/
structure UpdateShape where
  fields : List Nat
  conditions : List Nat
  deriving DecidableEq, Repr

/-- what runs the statements of an entity on a database -/
structure Mapper where
  entity : Entity
  database : Database
  /-- tells mappers apart -/
  number : Nat
  insertText : Option String := none
  deleteText : Option String := none
  selectText : Option String := none
  updateTexts : List (UpdateShape × String) := []

namespace Mapper

def model (m : Mapper) : Model := m.entity.model

/-! ## Texts -/

/-- the text that inserts a row -/
def insertion (m : Mapper) : String × Mapper :=
  let text := m.insertText.getD m.model.insertRow.text
  (text, { m with insertText := some text })

/-- the text that deletes a row -/
def deletion (m : Mapper) : String × Mapper :=
  let text := m.deleteText.getD m.model.deleteRow.text
  (text, { m with deleteText := some text })

/-- the text that fetches a row by its key -/
def fetch (m : Mapper) : String × Mapper :=
  let text := m.selectText.getD m.model.selectRow.text
  (text, { m with selectText := some text })

/-- the text that updates a row -/
def updating (m : Mapper) (shape : UpdateShape) : String × Mapper :=
  match m.updateTexts.lookup shape with
  | some text => (text, m)
  | none =>
    let text := (m.model.updateRow shape.fields shape.conditions).text
    (text, { m with updateTexts := m.updateTexts ++ [(shape, text)] })

/-- the number of update texts kept -/
def shapeCount (m : Mapper) : Nat := m.updateTexts.length

/-! ## Parameters -/

/-- the parameter for a value of the field at a position -/
def parameter (e : Entity) (position : Nat) (v : Value) : Outcome Value :=
  match e.model.fields[position]? with
  | some f => f.toStorage v
  | none => .ok v

/-- the parameters for the fields of an instance at some positions -/
def parameters (i : Instance) (positions : List Nat) : Outcome (List Value) :=
  positions.mapM fun p => parameter i.entity p (i.valueAt p)

/-- the parameters that address a row by its key -/
def keyParameters (e : Entity) (key : List Value) : Outcome (List Value) :=
  (e.model.key.zip key).mapM fun pv => parameter e pv.1 pv.2

/-- the parameters of an update: the fields, the key, the conditions -/
def updateParameters (i : Instance) (fields : List Nat) (conditions : List (Nat × Value)) :
    Outcome (List Value) := do
  let sets ← parameters i fields
  let key ← parameters i i.model.key
  let compared ← conditions.mapM fun c => parameter i.entity c.1 c.2
  return sets ++ key ++ compared

/-! ## Rows -/

/-- the instances that fetched rows stand for -/
def decode (m : Mapper) (rows : List Row) : Outcome (List Instance) :=
  rows.mapM fun r => Instance.ofRow m.entity m.database.name r.values

/-- puts the cells that an insertion returned into their fields, in order, until one cannot be read -/
def readBack (i : Instance) (cells : List Value) : List Nat → Outcome Unit × Instance
  | [] => (.ok (), i)
  | p :: rest =>
    match i.model.fields[p]? with
    | none => readBack i (cells.drop 1) rest
    | some f =>
      match f.accept (cells.headD .null) with
      | .error e => (.error e, i)
      | .ok v => readBack (i.withAt p v) (cells.drop 1) rest

/-- inserts a row and reads back what the database made; what has been read stays in the instance even if the
rest cannot be read -/
def insert (m : Mapper) (active : Active) (i : Instance) : Talk ((Outcome Unit × Instance) × Mapper) := do
  let (text, m) := m.insertion
  match parameters i m.model.insertPositions with
  | .error e => return ((.error e, i), m)
  | .ok params =>
    if m.model.returningPositions.isEmpty then
      let answer ← m.database.execute active text params
      return ((answer.map fun _ => (), i), m)
    else
      match ← m.database.query active text params with
      | .error e => return ((.error e, i), m)
      | .ok [] => return ((failure .database "INSERT returned no row", i), m)
      | .ok (row :: _) => return (readBack i row.values m.model.returningPositions, m)

/-- inserts many rows; what the database makes is not read back -/
def insertAll (m : Mapper) (active : Active) (instances : List Instance) : Talk (Outcome Nat × Mapper) := do
  if instances.isEmpty then return (.ok 0, m)
  let (text, m) := m.insertion
  match instances.mapM fun i => parameters i m.model.insertPositions with
  | .error e => return (.error e, m)
  | .ok rows => return (← m.database.executeMany active text rows, m)

/-- sets fields of the row with the instance's key in which conditions hold; counts the rows -/
def update (m : Mapper) (active : Active) (i : Instance) (fields : List Nat) (conditions : List (Nat × Value)) :
    Talk (Outcome Nat × Mapper) := do
  let (text, m) := m.updating ⟨fields, conditions.map Prod.fst⟩
  match updateParameters i fields conditions with
  | .error e => return (.error e, m)
  | .ok params => return (← m.database.execute active text params, m)

/-- deletes the row with the instance's key; counts the rows -/
def delete (m : Mapper) (active : Active) (i : Instance) : Talk (Outcome Nat × Mapper) := do
  let (text, m) := m.deletion
  match parameters i m.model.key with
  | .error e => return (.error e, m)
  | .ok params => return (← m.database.execute active text params, m)

/-- fetches the row with a key, its values in key order -/
def load (m : Mapper) (active : Active) (key : List Value) : Talk (Outcome (Option Instance) × Mapper) := do
  if key.length ≠ m.model.key.length then
    return (failure .keyIntegrity ("'" ++ m.model.name ++ "' has a " ++ toString m.model.key.length ++
      "-field primary key, got " ++ toString key.length ++ " value(s)"), m)
  match keyParameters m.entity key with
  | .error e => return (.error e, m)
  | .ok params =>
    let (text, m) := m.fetch
    let answer ← m.database.query active text params
    return ((answer.bind m.decode).map List.head?, m)

/-! ## Tables -/

/-- creates the table with its indexes and comments -/
def createTable (m : Mapper) (active : Active) (safe : Bool) : Talk (Outcome Unit) :=
  m.database.script active (m.model.scriptText safe)

/-- deletes every row of the table -/
def clearTable (m : Mapper) (active : Active) : Talk (Outcome Nat) :=
  m.database.execute active (Schema.Ddl.clear m.model.table).text []

/-- drops the table -/
def dropTable (m : Mapper) (active : Active) : Talk (Outcome Unit) :=
  m.database.script active (Schema.Ddl.drop m.model.table).text

/-! ## Queries -/

/-- runs a compiled query -/
def run {α : Type} (m : Mapper) (active : Active) (compiled : Outcome Compiled)
    (finish : List Row → Outcome α) : Talk (Outcome α) :=
  match compiled with
  | .error e => return .error e
  | .ok c => do return (← m.database.query active c.text c.parameters).bind finish

/-- runs a compiled statement; counts the rows -/
def runCounting (m : Mapper) (active : Active) (compiled : Outcome Compiled) : Talk (Outcome Nat) :=
  match compiled with
  | .error e => return .error e
  | .ok c => m.database.execute active c.text c.parameters

/-- fetches the rows of a selection -/
def select (m : Mapper) (active : Active) (s : Selection) : Talk (Outcome (List Instance)) :=
  m.run active (m.model.select s) m.decode

/-- the count in the first row of an answer, zero if there is none -/
def readCount : List Row → Outcome Nat
  | [] => .ok 0
  | row :: _ => (row.getAt 0 : Outcome Int64).map fun n => n.toInt.toNat

/-- counts the rows of a selection -/
def count (m : Mapper) (active : Active) (s : Selection) : Talk (Outcome Nat) :=
  m.run active (m.model.count s) readCount

/-- the plan in the first cell of an answer -/
def readPlan (rows : List Row) : Outcome Json :=
  match rows with
  | ⟨_, v :: _⟩ :: _ => .ok v.toJson
  | _ => .ok .null

/-- the database's plan for a selection -/
def explain (m : Mapper) (active : Active) (s : Selection) : Talk (Outcome Json) :=
  m.run active (m.model.explain s) readPlan

/-- the new values of an update, by position -/
def assignments (e : Entity) (values : List (String × Value)) : Outcome (List (Nat × Value)) :=
  values.mapM fun (name, v) => do
    let p ← e.model.position name
    return (p, ← parameter e p v)

/-- sets fields in every row that passes the filters; counts the rows -/
def updateWhere (m : Mapper) (active : Active) (values : List (String × Value)) (filters : List Filter) :
    Talk (Outcome Nat) :=
  m.runCounting active ((assignments m.entity values).bind fun sets => m.model.updateWhere sets filters)

/-- deletes every row that passes the filters; counts the rows -/
def deleteWhere (m : Mapper) (active : Active) (filters : List Filter) : Talk (Outcome Nat) :=
  m.runCounting active (m.model.deleteWhere filters)

end Mapper

end Tabula
