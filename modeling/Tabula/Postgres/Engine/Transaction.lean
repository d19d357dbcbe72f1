import Tabula.Postgres.Engine.Pool
import Tabula.Postgres.Engine.Statement
/-!
# Transaction connections

A connection taken out of the pool for a transaction is held under a number.  It is given up once: back to the
pool if the transaction was committed or rolled back, and closed otherwise.
-/

namespace Tabula.Postgres.Engine

/-- replaces the state of a transaction connection -/
def setHandle (n : Nat) (h : Handle) : Task Unit := modify fun e =>
  { e with handles := e.handles.map fun p => if p.1 = n then (n, h) else p }

/-- opens a transaction on a connection of its own -/
def begin : Operation Nat := do
  let c ← checkOut
  match ← attempt (scriptOn c "BEGIN") with
  | .ok () =>
    let n := (← get).nextHandle
    modify fun e => { e with handles := e.handles ++ [(n, ⟨some c, false⟩)], nextHandle := n + 1 }
    return n
  | .error halt =>
    giveBack c
    throw halt

/-- the refusal of an operation on a transaction connection that was given up -/
def releasedError (e : Engine) : Error :=
  ⟨.transaction, "transaction connection for '" ++ e.config.name ++ "' was already released"⟩

/-- the connection behind a transaction connection, if it may still be used -/
def usable (e : Engine) (n : Nat) : Outcome Nat :=
  if e.closed then .error e.closedError
  else
    match (e.handles.lookup n).bind Handle.connection with
    | some c => .ok c
    | none => .error e.releasedError

/-- runs an operation on a transaction connection -/
def onHandle {α : Type} (n : Nat) (op : Nat → Operation α) : Operation α := do
  op (← outcome ((← get).usable n))

/-- ends the transaction -/
def finish (n : Nat) (command : String) : Operation Unit :=
  onHandle n fun c => do
    scriptOn c command
    setHandle n { connection := some c, finished := true }

def commit (n : Nat) : Operation Unit := finish n "COMMIT"

def rollback (n : Nat) : Operation Unit := finish n "ROLLBACK"

/-- takes the connection out of a transaction connection -/
def vacate (n : Nat) : Task (Option (Nat × Bool)) := do
  match (← get).handles.lookup n with
  | some { connection := some c, finished } =>
    setHandle n { connection := none, finished }
    return some (c, finished)
  | _ => return none

/-- gives the connection back; with its transaction unfinished it is closed instead -/
def release (n : Nat) : Task Unit := do
  match ← vacate n with
  | some (c, true) => giveBack c
  | some (c, false) => shut c
  | none => pure ()

/-- closes the connection -/
def discard (n : Nat) : Task Unit := do
  match ← vacate n with
  | some (c, _) => shut c
  | none => pure ()

/-- forgets a transaction connection -/
def forget (n : Nat) : Task Unit := do
  release n
  modify fun e => { e with handles := e.handles.filter fun p => p.1 ≠ n }

end Tabula.Postgres.Engine
