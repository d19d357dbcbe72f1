import Tabula.Query.Basic
/-!
# Managers

A manager is where the queries of an entity start and where its rows are made.
-/

namespace Tabula

/-- the rows of an entity, on the database of its model unless another is named -/
structure Manager where
  entity : Entity
  database : Option String := none

namespace Manager

def databaseName (m : Manager) : String := Query.databaseOr m.entity m.database

/-- a query for every row -/
def all (m : Manager) : Query := { entity := m.entity, database := m.database }

/-- makes a new row -/
def create (m : Manager) (active : Active) (now : Instant) (draw : Nat → Nat) (pairs : List (String × Value)) :
    Work (Outcome Instance) :=
  match Instance.ofPairs m.entity draw pairs with
  | .error e => return .error e
  | .ok i => do
    let (saved, i) ← (i.routedTo m.databaseName).save active now
    return saved.map fun _ => i

/-- an instance as it is inserted with others -/
def readied (now : Instant) (i : Instance) : Outcome Instance := do
  let i ← i.filledIn now
  i.checkRequired
  return i

/-- makes many new rows with one statement; what the database makes is not read back -/
def bulkCreate (m : Manager) (active : Active) (now : Instant) (instances : List Instance) :
    Work (Outcome (List Instance)) :=
  match instances.mapM (readied now) with
  | .error e => return .error e
  | .ok ready => do
    let inserted ← Registry.withMapper m.entity m.databaseName fun mapper => mapper.insertAll active ready
    return inserted.map fun _ => ready.map fun i => i.storedIn m.databaseName

/-- the single row that passes a filter -/
def get (m : Manager) (active : Active) (f : Filter) : Work (Outcome Instance) := (m.all.filter f).fetchOne active

/-- the single row that passes a filter, if any -/
def getOrNone (m : Manager) (active : Active) (f : Filter) : Work (Outcome (Option Instance)) :=
  (m.all.get f).fetchOptional active

/-- the row with the given values, made from them and from defaults if there is none, and whether it was made;
if another insertion gets in between, the row is looked up once more -/
def getOrCreate (m : Manager) (active : Active) (now : Instant) (draw : Nat → Nat)
    (lookup defaults : List (String × Value)) : Work (Outcome (Instance × Bool)) := do
  let f := Filter.ofPairs lookup
  match ← m.getOrNone active f with
  | .error e => return .error e
  | .ok (some found) => return .ok (found, false)
  | .ok none =>
    match ← m.create active now draw (defaults ++ lookup) with
    | .ok made => return .ok (made, true)
    | .error e => if e.isIntegrity then return (← m.get active f).map (·, false) else return .error e

/-- the first row, if any -/
def first (m : Manager) (active : Active) : Work (Outcome (Option Instance)) := m.all.first.fetchOptional active

/-- counts the rows -/
def count (m : Manager) (active : Active) : Work (Outcome Nat) := m.all.count active

/-- fetches the row with a key, its values in key order -/
def loadKey (m : Manager) (active : Active) (key : List Value) : Work (Outcome Instance) := do
  let found ← Registry.withMapper m.entity m.databaseName fun mapper => mapper.load active key
  return found.bind fun
    | some i => .ok i
    | none => failure .doesNotExist (m.entity.model.name ++ " matching pk does not exist")

/-- the values of a key: a list is the values of a composite key -/
def keyValues (model : Model) : Value → List Value
  | .list items => if model.isComposite then items else [.list items]
  | v => [v]

/-- fetches the row with a key: a value, or a list in key order for a composite key -/
def load (m : Manager) (active : Active) (key : Value) : Work (Outcome Instance) :=
  m.loadKey active (keyValues m.entity.model key)

/-- the key values among named ones, in key order; every key field has to be named and nothing else -/
def namedKey (model : Model) (named : List (String × Value)) : Outcome (List Value) := do
  let values ← model.keyNames.mapM fun name =>
    match named.lookup name with
    | some v => .ok v
    | none => failure .keyIntegrity ("'" ++ model.name ++ "' primary key needs " ++
        Text.shownList (model.keyNames.map Text.shown) ++ ", missing '" ++ name ++ "'")
  match named.find? fun p => !model.keyNames.contains p.1 with
  | some (extra, _) =>
    failure .keyIntegrity ("'" ++ extra ++ "' is not a primary key field of '" ++ model.name ++ "'")
  | none => return values

/-- fetches the row with a key given by the names of its fields -/
def getByKey (m : Manager) (active : Active) (named : List (String × Value)) : Work (Outcome Instance) :=
  match namedKey m.entity.model named with
  | .error e => return .error e
  | .ok key => m.loadKey active key

end Manager

end Tabula
