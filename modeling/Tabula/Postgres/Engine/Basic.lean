import Tabula.Postgres.Wire
/-!
# Engines

An engine owns a pool of connections to one database.  A connection is lent to one operation at a time and goes
back to the pool when the operation ends, whether it succeeds, fails or is dropped, unless the operation closed
it.  Idle connections are lent again in the order in which they came back, as they are.
-/

namespace Tabula.Postgres

/-- a connection held for a transaction -/
structure Handle where
  /-- the connection, until it is given back or closed -/
  connection : Option Nat
  /-- whether the transaction was committed or rolled back -/
  finished : Bool := false
  deriving DecidableEq, Repr

/-- the state of an engine -/
structure Engine where
  config : DatabaseConfig
  /-- seconds that closing waits for connections in use -/
  drainTimeout : Nat := 10
  isOpen : Bool := false
  closed : Bool := false
  /-- connections of the pool that nobody uses, the oldest first -/
  idle : List Nat := []
  /-- connections of the pool in use -/
  lent : List Nat := []
  /-- statements that connections know -/
  prepared : List ((Nat × String) × Prepared) := []
  /-- the transaction connections handed out, by number -/
  handles : List (Nat × Handle) := []
  /-- the number of the next transaction connection -/
  nextHandle : Nat := 0

/-- a computation on an engine -/
abbrev Task := StateT Engine Line

/-- why an operation stops before its end -/
inductive Halt where
  | failed (error : Error)
  /-- its caller dropped it -/
  | dropped
  deriving DecidableEq, Repr

/-- an operation on an engine -/
abbrev Operation := ExceptT Halt Task

namespace Engine

/-- asks the server -/
def ask (q : Request) : Task q.Answer := StateT.lift (Dialogue.question q)

/-- goes on with what arrived -/
def settled {α : Type} : Awaited α → Operation α
  | .arrived (.ok a) => pure a
  | .arrived (.error f) => throw (.failed f.toError)
  | .dropped => throw .dropped

/-- runs an operation and goes on with how it ended -/
def attempt {α : Type} (op : Operation α) : Operation (Except Halt α) := ExceptT.mk do
  let result ← op.run
  return .ok result

/-- ends as another operation ended -/
def ending {α : Type} : Except Halt α → Operation α
  | .ok a => pure a
  | .error halt => throw halt

/-- the text shown to a programmer -/
def inspect (e : Engine) : String :=
  Text.shownRecord "PostgresEngine" [("config", e.config.inspect), ("initialized", Text.shownBool e.isOpen),
    ("closed", Text.shownBool e.closed), ("drain_timeout", DatabaseConfig.shownTime e.drainTimeout)]

end Engine

end Tabula.Postgres
