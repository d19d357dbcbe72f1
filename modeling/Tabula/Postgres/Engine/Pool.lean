import Tabula.Postgres.Engine.Basic
/-!
# The pool

Connections are lent to operations and taken back.  A connection of the pool is idle or lent, never both; one that
was closed is neither.
-/

namespace Tabula.Postgres.Engine

/-- the refusal of an operation on a closed engine -/
def closedError (e : Engine) : Error := ⟨.operational, "database '" ++ e.config.name ++ "' is closed"⟩

/-- the refusal of an operation on an engine that was never opened -/
def unopenedError (e : Engine) : Error :=
  ⟨.operational, "database '" ++ e.config.name ++ "' is not initialized"⟩

/-- why the pool hands out no connection -/
inductive PoolHalt where
  | failed (fault : Fault)
  | timedOut
  | dropped

/-- marks a connection as lent -/
def lend (c : Nat) : Task Unit := modify fun e => { e with lent := e.lent ++ [c] }

/-- closes a connection for good -/
def shut (c : Nat) : Task Unit := do
  modify fun e => { e with
    idle := e.idle.filter (· ≠ c)
    lent := e.lent.filter (· ≠ c)
    prepared := e.prepared.filter fun p => p.1.1 ≠ c }
  ask (.shut c)

/-- closes connections one after the other -/
def shutAll : List Nat → Task Unit
  | [] => pure ()
  | c :: rest => do
    shut c
    shutAll rest

/-- takes a connection back; after the engine was closed it is closed too -/
def giveBack (c : Nat) : Task Unit := do
  let e ← get
  if e.lent.contains c then
    if e.closed then shut c
    else set { e with lent := e.lent.filter (· ≠ c), idle := e.idle ++ [c] }

/-- takes connections back one after the other -/
def giveBackAll : List Nat → Task Unit
  | [] => pure ()
  | c :: rest => do
    giveBack c
    giveBackAll rest

/-- the oldest idle connection that is still open; those in front of it that are not are forgotten -/
def takeIdle : List Nat → Task (Option Nat)
  | [] => do
    modify fun e => { e with idle := [] }
    return none
  | c :: rest => do
    let alive : Bool ← ask (.isAlive c)
    if alive then
      modify fun e => { e with idle := rest, lent := e.lent ++ [c] }
      return some c
    else
      modify fun e => { e with prepared := e.prepared.filter fun p => p.1.1 ≠ c }
      takeIdle rest

/-- a connection of the pool: an idle one, else a new one if there may be another -/
def takeConnection : Task (Except PoolHalt Nat) := do
  match ← takeIdle (← get).idle with
  | some c => return .ok c
  | none =>
    let e ← get
    if e.lent.length < e.config.maxSize then
      match ← ask (.connect e.config e.config.database) with
      | .arrived (.ok c) =>
        lend c
        return .ok c
      | .arrived (.error f) => return .error (.failed f)
      | .dropped => return .error .dropped
    else
      match ← ask (.wait e.config.timeout) with
      | .arrived _ => return .error .timedOut
      | .dropped => return .error .dropped

/-- a connection for an operation -/
def checkOut : Operation Nat := do
  let e ← get
  if e.closed then throw (.failed e.closedError)
  if !e.isOpen then throw (.failed e.unopenedError)
  match ← takeConnection with
  | .ok c => return c
  | .error (.failed f) => throw (.failed f.toError)
  | .error .timedOut =>
    throw (.failed ⟨.operational, "timed out waiting for a connection to '" ++ e.config.name ++ "'"⟩)
  | .error .dropped => throw .dropped

/-- runs an operation on a connection of the pool, which is given back in any case -/
def onConnection {α : Type} (op : Nat → Operation α) : Operation α := do
  let c ← checkOut
  let result ← attempt (op c)
  giveBack c
  ending result

end Tabula.Postgres.Engine
