import Tabula.Field.Storage
import Tabula.Model.Basic
import Tabula.Row
/-!
# Instances

An instance stands for one row of a table: a value for each field, whether the row is stored, and a snapshot of
the values when they last agreed with the row.  What differs from the snapshot is what a save has to write.
-/

namespace Tabula

/-- a model as one program declares it; declarations may agree in all but their number -/
structure Entity where
  number : Nat
  model : Model

/-- one row of a table, stored or not -/
structure Instance where
  entity : Entity
  /-- the values in the order of the fields -/
  values : List Value
  /-- whether the row is stored -/
  persisted : Bool := false
  /-- the values as last loaded or written -/
  snapshot : Option (List Value) := none
  /-- the database that the row is read from and written to, if not that of the model -/
  database : Option String := none

namespace Instance

def model (i : Instance) : Model := i.entity.model

/-- the fields with their values -/
def cells (i : Instance) : List (Field × Value) := i.model.fields.zip i.values

/-- the value at a position -/
def valueAt (i : Instance) (position : Nat) : Value := i.values.getD position .null

/-! ## New instances -/

/-- an instance that is not stored, with every field at its default -/
def new (e : Entity) (draw : Nat → Nat) : Instance :=
  { entity := e, values := e.model.fields.mapIdx fun n f => f.initial (draw n) }

/-- the refusal of null in a field -/
def nullRefused (name : String) : Error := ⟨.fieldValue, name ++ " is non nullable field, but null was passed"⟩

/-- whether a field may not hold a value because it is null -/
def refusesNull (f : Field) (v : Value) : Bool := v.isNull && !f.nullable && !f.kind.isGenerated

/-- refuses null in the fields that neither allow it nor are made by the database -/
def checkRequired (i : Instance) : Outcome Unit :=
  match i.cells.find? fun c => refusesNull c.1 c.2 with
  | some (f, _) => .error (nullRefused f.name)
  | none => .ok ()

/-- the instance with other values -/
def withValues (i : Instance) (values : List Value) : Instance := { i with values := values }

/-- the instance with another value at a position -/
def withAt (i : Instance) (position : Nat) (v : Value) : Instance := { i with values := i.values.set position v }

/-- assigns a field: the value is converted to the field's kind, and a key field of a stored row keeps its
value -/
def set (i : Instance) (name : String) (v : Value) : Outcome Instance := do
  let position ← i.model.position name
  match i.model.fields[position]? with
  | none => failure .field ("model '" ++ i.model.name ++ "' has no field '" ++ name ++ "'")
  | some f =>
    let v ← f.accept v
    if refusesNull f v then throw (nullRefused name)
    if i.persisted && i.model.key.contains position && !v.same (i.valueAt position) then
      failure .keyChanged (i.model.name ++ ": primary key field '" ++ name ++
        "' of a persisted instance cannot be changed")
    else return i.withAt position v

/-- assigns several fields -/
def setAll (i : Instance) (pairs : List (String × Value)) : Outcome Instance :=
  pairs.foldlM (fun i p => i.set p.1 p.2) i

/-- a new instance with the given fields -/
def ofPairs (e : Entity) (draw : Nat → Nat) (pairs : List (String × Value)) : Outcome Instance := do
  let i ← (new e draw).setAll pairs
  i.checkRequired
  return i

/-! ## Views -/

/-- the value of a field -/
def get (i : Instance) (name : String) : Outcome Value := (i.model.position name).map i.valueAt

/-- the value of a field as an ordinary type -/
def getAs {α : Type} [OfValue α] (i : Instance) (name : String) : Outcome α := (i.get name).bind ofValue

/-- the values of the key fields, in key order -/
def keyValues (i : Instance) : List Value := i.model.key.map i.valueAt

/-- the key: its value, or a list of its values -/
def key (i : Instance) : Value :=
  match i.keyValues with
  | [v] => v
  | vs => .list vs

/-- the database that the row is read from and written to -/
def databaseName (i : Instance) : String := i.database.getD i.model.database

/-- the instance, routed to another database -/
def routedTo (i : Instance) (database : String) : Instance := { i with database := some database }

/-- the positions of the fields that differ from the snapshot, all of them without one -/
def changedPositions (i : Instance) : List Nat :=
  match i.snapshot with
  | none => List.range i.values.length
  | some old => (List.range i.values.length).filter fun p => !(old.getD p .null).same (i.valueAt p)

/-- the names of the fields that differ from the snapshot -/
def changed (i : Instance) : List String :=
  i.changedPositions.filterMap fun p => (i.model.fields[p]?).map Field.name

/-- the instance as agreeing with its row -/
def synchronized (i : Instance) : Instance := { i with snapshot := some i.values }

/-- the instance as stored in a database -/
def storedIn (i : Instance) (database : String) : Instance :=
  ({ i with persisted := true, database := some database }).synchronized

/-- the values by the names of their fields -/
def toMap (i : Instance) : List (String × Value) := Keyed.ofList (i.cells.map fun c => (c.1.name, c.2))

/-- the values as a document -/
def toJson (i : Instance) : Json := .ofMembers (i.cells.map fun c => (c.1.name, c.2.toJson))

/-- equality of instances of one entity: equality of their keys -/
def same (i j : Instance) : Bool := i.key.same j.key

/-- the text shown to a user -/
def text (i : Instance) : String := "<" ++ i.model.name ++ ": " ++ i.key.text ++ ">"

/-- what a hash of an instance is made of -/
def hashInput (i : Instance) : String × String := (i.model.name, i.key.text)

/-- the text shown to a programmer -/
def inspect (i : Instance) : String :=
  match i.cells with
  | [] => i.model.name
  | cells => Text.shownRecord i.model.name (cells.map fun c => (c.1.name, c.2.inspect))

/-! ## Rows -/

/-- the stored instance that a fetched row stands for -/
def ofRow (e : Entity) (database : String) (raw : List Value) : Outcome Instance := do
  let fields := e.model.fields
  if raw.length ≠ fields.length then
    failure .database ("expected " ++ toString fields.length ++ " columns for '" ++ e.model.name ++ "', got " ++
      toString raw.length)
  else
    let values ← (fields.zip raw).mapM fun c => c.1.accept c.2
    return ({ entity := e, values, persisted := true, database := some database } : Instance).synchronized

/-! ## Automatic values -/

/-- the values that a save at the moment `now` fills in, with their positions -/
def automaticValues (i : Instance) (now : Instant) : List Nat → Outcome (List (Nat × Value))
  | [] => .ok []
  | p :: rest => do
    let filled ← match i.model.fields[p]? with
      | some f => f.automatic now (i.valueAt p) i.persisted
      | none => .ok none
    let others ← i.automaticValues now rest
    return (filled.map (p, ·)).toList ++ others

/-- the instance with its version counter and automatic times filled in -/
def filledIn (i : Instance) (now : Instant) : Outcome Instance := do
  let filled ← i.automaticValues now i.model.automaticPositions
  return filled.foldl (fun i v => i.withAt v.1 v.2) i

end Instance

end Tabula
