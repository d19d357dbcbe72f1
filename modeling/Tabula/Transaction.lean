import Tabula.Database.Call
/-!
# Transactions

`inTransaction` runs a computation inside a transaction: a connection is taken and `BEGIN` issued on it, every
statement of the computation on that database goes to it, and in the end the transaction is committed if the
computation succeeded and rolled back if it failed.  The connection is given back in both cases.  A computation
that is dropped before it ends leaves its connection to be discarded.

Transactions on one name do not nest.
-/

namespace Tabula

/-- how a computation ended -/
inductive Ending (α : Type) where
  | finished (outcome : Outcome α)
  /-- it was dropped before it ended -/
  | dropped

namespace Transaction

/-- the refusal of a transaction inside another on the same name -/
def nested (name : String) : Error :=
  ⟨.transaction, "a transaction is already active on '" ++ name ++ "'; nested transactions are not supported"⟩

/-- whether the caller is inside a transaction on a name -/
def isActive (active : Active) (name : String) : Bool := Keyed.contains name active

/-- ends a transaction as its computation ended; the error of a rollback gives way to that of the computation -/
def conclude {α : Type} (c : Connection) : Ending α → Talk (Ending α)
  | .finished (.ok a) => do
    let committed ← c.commit
    c.release
    return .finished (committed.map fun _ => a)
  | .finished (.error e) => do
    let _ ← c.rollback
    c.release
    return .finished (.error e)
  | .dropped => do
    c.discard
    return .dropped

end Transaction

open Transaction in
/-- runs a computation inside a transaction, in any monad that can call databases -/
def inTransaction {m : Type → Type} [Monad m] {α : Type} (call : {β : Type} → Talk β → m β) (db : Database)
    (active : Active) (body : Active → m (Ending α)) : m (Ending α) := do
  if isActive active db.name then return .finished (.error (nested db.name))
  match ← call db.begin with
  | .error e => return .finished (.error e)
  | .ok c => do
    let ending ← body (Keyed.insert db.name c active)
    call (conclude c ending)

end Tabula
