import Tabula.Postgres.Engine.Transaction
import Tabula.Sql.Quoted
/-!
# Opening and closing

Opening an engine makes the connections that it keeps, and may create the database first.  Closing it ends all of
them, and nothing runs on it any more.
-/

namespace Tabula.Postgres.Engine

/-- the text of a halt of the pool -/
def PoolHalt.text : PoolHalt → String
  | failed f => "Error occurred while creating a new object: " ++ f.text
  | timedOut => "Timeout occurred while waiting for a slot to become available"
  | dropped => ""

/-- the error of a pool that cannot be filled -/
def openingHalt (e : Engine) : PoolHalt → Halt
  | .dropped => .dropped
  | halt => .failed
      ⟨.connection, "can't establish connection to database " ++ e.config.database ++ ": " ++ halt.text⟩

/-- takes connections of the pool until there are enough, and gives all of them back -/
def fill (held : List Nat) : Nat → Task (Except PoolHalt Unit)
  | 0 => do
    giveBackAll held
    return .ok ()
  | n + 1 => do
    match ← takeConnection with
    | .ok c => fill (held ++ [c]) n
    | .error halt =>
      giveBackAll held
      return .error halt

/-- the database that is always there -/
def maintenanceDatabase : String := "postgres"

/-- runs a statement on a connection of its own to the maintenance database -/
def administer (action statement : String) : Operation Unit := do
  let e ← get
  let c ← settled (← ask (.connect e.config maintenanceDatabase))
  let reply ← ask (.batch c statement)
  ask (.shut c)
  match reply with
  | .arrived (.ok ()) => return ()
  | .arrived (.error f) =>
    throw (.failed ⟨.operational, action ++ " database " ++ e.config.database ++ ", error: " ++ f.text⟩)
  | .dropped => throw .dropped

/-- creates the configured database, owned by the configured user -/
def createDatabase : Operation Unit := do
  let c := (← get).config
  let owner := match c.user with
    | some user => " OWNER " ++ Sql.identifier user
    | none => ""
  administer "create" ("CREATE DATABASE " ++ Sql.identifier c.database ++ owner)

/-- fills the pool, after creating the database if it is missing and may be created -/
def fillOrCreate : Operation Unit := do
  let e ← get
  match ← fill [] e.config.minSize with
  | .ok () => return ()
  | .error halt =>
    match halt with
    | .failed f =>
      if e.config.createsDatabase && f.isUnknownDatabase then
        createDatabase
        match ← fill [] e.config.minSize with
        | .ok () => return ()
        | .error halt => throw (e.openingHalt halt)
      else throw (e.openingHalt halt)
    | halt => throw (e.openingHalt halt)

/-- opens the pool; a pool that is open stays as it is -/
def start : Operation Unit := do
  let e ← get
  if e.closed then throw (.failed e.closedError)
  if e.isOpen then return ()
  match ← attempt fillOrCreate with
  | .ok () => modify fun e => { e with isOpen := true }
  | .error halt =>
    shutAll (← get).idle
    throw halt


/-! ## Closing -/

/-- closes the connections of transactions that are still held -/
def discardAll : List (Nat × Handle) → Task Unit
  | [] => pure ()
  | (n, _) :: rest => do
    discard n
    discardAll rest

/-- asks the server to stop what runs on connections -/
def cancelAll : List Nat → Task Unit
  | [] => pure ()
  | c :: rest => do
    ask (.cancel c)
    cancelAll rest

/-- ends the use of the engine: idle connections are closed, those of transactions are taken away, and what still
runs is stopped -/
def close : Task Unit := do
  let e ← get
  set { e with closed := true, isOpen := false }
  if e.isOpen then
    shutAll e.idle
    discardAll (← get).handles
    cancelAll (← get).lent

/-- closes the engine and drops the configured database -/
def deleteDatabase : Operation Unit := do
  close
  administer "drop" ("DROP DATABASE " ++ Sql.identifier (← get).config.database)

end Tabula.Postgres.Engine
