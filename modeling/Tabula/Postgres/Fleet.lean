import Tabula.Postgres.Engine.Lifetime
import Tabula.Postgres.Engine.Operations
import Tabula.Startup
/-!
# Fleets of engines

The engines behind the databases of a program.  `Fleet.answer` answers a call on a database by an operation on its
engine; a call that names the connection of a transaction runs on that connection, whichever engine it belongs
to.  When a conversation is dropped, the connections of its open transactions are discarded, the innermost first.
-/

namespace Tabula.Postgres

/-- engines by the numbers of their databases -/
structure Fleet where
  engines : List (Nat × Engine) := []

/-- a computation on a fleet -/
abbrev Crew := StateT Fleet Line

namespace Fleet

/-- the engine of a database -/
def engine? (f : Fleet) (db : Database) : Option Engine := f.engines.lookup db.id

/-- replaces the engine of a database -/
def withEngine (f : Fleet) (db : Database) (e : Engine) : Fleet :=
  { f with engines := f.engines.map fun p => if p.1 = db.id then (p.1, e) else p }

/-- attaches an engine as a database of its name -/
def attach (f : Fleet) (e : Engine) : Database × Fleet :=
  let db : Database := ⟨e.config.name, f.engines.length⟩
  (db, { f with engines := f.engines ++ [(db.id, e)] })

/-- runs an operation on the engine of a database; an engine that is not there counts as closed -/
def operate {α : Type} (db : Database) (op : Operation α) : Crew (Except Halt α) := do
  match (← get).engine? db with
  | none => return .error (.failed ⟨.operational, "database '" ++ db.name ++ "' is closed"⟩)
  | some e =>
    let (result, e) ← StateT.lift (op.run.run e)
    modify fun f => f.withEngine db e
    return result

/-- what the caller of an operation sees; nothing if it was dropped -/
def seen {α : Type} : Except Halt α → Option (Outcome α)
  | .ok a => some (.ok a)
  | .error (.failed e) => some (.error e)
  | .error .dropped => none

/-- runs an operation on the connection of a transaction if there is one, else on the pool -/
def routed {α : Type} (db : Database) (pinned : Option Connection) (own : Operation α)
    (held : Nat → Operation α) : Crew (Option (Outcome α)) := do
  match pinned with
  | some c => return seen (← operate c.database (Engine.onHandle c.number held))
  | none => return seen (← operate db own)

/-- answers a call; nothing if the call was dropped -/
def answer : (call : Call) → Crew (Option call.Answer)
  | .execute db pinned statement parameters =>
    routed db pinned (Engine.execute statement parameters) fun c => Engine.executeOn c statement parameters
  | .query db pinned statement parameters =>
    routed db pinned (Engine.query statement parameters) fun c => Engine.queryOn c statement parameters
  | .executeMany db pinned statement rows =>
    routed db pinned (Engine.executeMany statement rows) fun c => Engine.executeManyOn c statement rows
  | .script db pinned text => routed db pinned (Engine.script text) fun c => Engine.scriptOn c text
  | .close db => return seen (← operate db Engine.close)
  | .begin db => return seen ((← operate db Engine.begin).map fun n => ⟨db, n⟩)
  | .commit c => return seen (← operate c.database (Engine.commit c.number))
  | .rollback c => return seen (← operate c.database (Engine.rollback c.number))
  | .release c => do
    let _ ← operate c.database (Engine.release c.number)
    return some ()
  | .discard c => do
    let _ ← operate c.database (Engine.discard c.number)
    return some ()

/-- the connections of open transactions after a call, the innermost first -/
def heldAfter : (call : Call) → call.Answer → List Connection → List Connection
  | .begin _, .ok c, held => c :: held
  | .release c, _, held => held.filter (· ≠ c)
  | .discard c, _, held => held.filter (· ≠ c)
  | _, _, held => held

/-- discards connections one after the other -/
def discardAll : List Connection → Crew Unit
  | [] => pure ()
  | c :: rest => do
    let _ ← operate c.database (Engine.discard c.number)
    discardAll rest

/-- answers all calls of a conversation, where some connections are held already; nothing if it was dropped -/
def converse {α : Type} (held : List Connection) : Talk α → Crew (Option α)
  | .done a => return some a
  | .ask call next => do
    match ← answer call with
    | some reply => converse (heldAfter call reply held) (next reply)
    | none => do
      discardAll held
      return none

/-! ## Startup -/

/-- opens an engine for a configuration and attaches it -/
def launch (config : DatabaseConfig) : Crew (Except Halt Database) := do
  let (result, e) ← StateT.lift (Engine.start.run.run { config })
  match result with
  | .ok () => modifyGet fun f =>
      let (db, f) := f.attach e
      (.ok db, f)
  | .error halt => return .error halt

/-- answers a request of startup; nothing if it was dropped -/
def answerOpening : (r : Startup.Request) → Crew (Option r.Answer)
  | .connect config => return seen (← launch config)
  | .close db => return seen (← operate db Engine.close)

/-- answers all requests of startup; nothing if it was dropped -/
def openWith {α : Type} : Startup.Opening α → Crew (Option α)
  | .done a => return some a
  | .ask r next => do
    match ← answerOpening r with
    | some reply => openWith (next reply)
    | none => return none

end Fleet

end Tabula.Postgres
