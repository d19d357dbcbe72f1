import Tabula.Database.Name
import Tabula.Mapper
/-!
# Registries

A registry holds the databases that a program has attached, the models it wants tables for, and one mapper for
each entity and database name, made on first use.  A mapper is dropped when its name gets another database or
the registry is closed, so it always runs on the database attached under its name.
-/

namespace Tabula

/-- the entity and database name that a mapper is for -/
structure MapperKey where
  entity : Nat
  database : String
  deriving DecidableEq, Repr

/-- attached databases, registered models and the mappers made so far -/
structure Registry where
  databases : List (String × Database) := []
  models : List Entity := []
  mappers : List (MapperKey × Mapper) := []
  /-- whether databases are attached -/
  isOpen : Bool := false
  /-- the number of the next mapper -/
  nextMapper : Nat := 0

/-- a computation that calls databases and changes a registry -/
abbrev Work := StateT Registry Talk

namespace Registry

/-- attaches a database under its name, in place of any other -/
def attach (r : Registry) (db : Database) : Registry :=
  { r with
    databases := Keyed.insert db.name db r.databases
    mappers := r.mappers.filter fun m => m.1.database ≠ db.name
    isOpen := true }

/-- a registry of databases -/
def ofDatabases (dbs : List Database) : Registry := dbs.foldl attach {}

/-- registers a model for the creation of tables, once -/
def register (r : Registry) (e : Entity) : Registry :=
  if r.models.any fun m => m.number = e.number then r else { r with models := r.models ++ [e] }

/-- the names of the registered models -/
def modelNames (r : Registry) : List String := r.models.map fun e => e.model.name

/-- the names of the attached databases -/
def databaseNames (r : Registry) : List String := Keyed.names r.databases

/-- the database attached under a name -/
def database (r : Registry) (name : String) : Outcome Database :=
  if !r.isOpen then failure .configuration "postmodel is not initialized; call init() first"
  else
    match Keyed.find? name r.databases with
    | some db => .ok db
    | none => failure .configuration ("unknown database '" ++ name ++ "'")

/-- the mapper of an entity on the database of a name, made on first use -/
def mapper (r : Registry) (e : Entity) (name : String) : Outcome (Mapper × Registry) :=
  let key : MapperKey := ⟨e.number, name⟩
  match r.mappers.lookup key with
  | some m => .ok (m, r)
  | none => do
    let db ← r.database name
    let m : Mapper := { entity := e, database := db, number := r.nextMapper }
    return (m, { r with mappers := r.mappers ++ [(key, m)], nextMapper := r.nextMapper + 1 })

/-- keeps what a mapper has learnt -/
def keep (r : Registry) (m : Mapper) : Registry :=
  { r with mappers := r.mappers.map fun e => if e.2.number = m.number then (e.1, m) else e }

/-- the text shown to a programmer -/
def inspect (r : Registry) : String :=
  Text.shownPartly "Postmodel" [("databases", Text.shownList (r.databaseNames.map Text.shown)),
    ("models", Text.shownList (r.modelNames.map Text.shown)), ("inited", Text.shownBool r.isOpen)]

/-- runs a mapper of an entity on the database of a name -/
def withMapper {α : Type} (e : Entity) (name : String) (f : Mapper → Talk (Outcome α × Mapper)) :
    Work (Outcome α) := fun r =>
  match r.mapper e name with
  | .error e => return (.error e, r)
  | .ok (m, r) => do
    let (answer, m) ← f m
    return (answer, r.keep m)

/-- as `withMapper`, for what leaves the mapper as it is -/
def onMapper {α : Type} (e : Entity) (name : String) (f : Mapper → Talk (Outcome α)) : Work (Outcome α) :=
  withMapper e name fun m => do return (← f m, m)

/-- creates the tables of models one after the other until one fails -/
def createTables (r : Registry) (active : Active) (safe : Bool) : List Entity → Talk (Outcome Unit)
  | [] => return .ok ()
  | e :: rest =>
    match r.database e.model.database with
    | .error err => return .error err
    | .ok db => do
      match ← db.script active (e.model.scriptText safe) with
      | .error err => return .error err
      | .ok () => r.createTables active safe rest

/-- creates the tables of all registered models that are not abstract -/
def generateSchemas (r : Registry) (active : Active) (safe : Bool) : Talk (Outcome Unit) :=
  if !r.isOpen then
    return failure .configuration "you have to call init() before generating schemas"
  else r.createTables active safe (r.models.filter fun e => !e.model.isAbstract)

/-- closes databases, every one; gives the first error, if any -/
def closeAll : List Database → Talk (Outcome Unit)
  | [] => return .ok ()
  | db :: rest => do
    let first ← db.close
    let others ← closeAll rest
    return match first with
      | .error e => .error e
      | .ok () => others

/-- detaches and closes every database and drops all mappers -/
def close : Work (Outcome Unit) := fun r => do
  let closed ← closeAll (r.databases.map Prod.snd)
  return (closed, { r with databases := [], mappers := [], isOpen := false })

end Registry

end Tabula
