import Tabula.Postgres.Engine.Pool
import Tabula.Postgres.Engine.Statement
/-!
# Operations on the pool

Each runs on a connection of its own.  A statement with many lists of parameters runs in a transaction, so that
either all of them take effect or none.
-/

namespace Tabula.Postgres.Engine

def execute (statement : String) (parameters : List Value) : Operation Nat :=
  onConnection fun c => executeOn c statement parameters

def query (statement : String) (parameters : List Value) : Operation (List Row) :=
  onConnection fun c => queryOn c statement parameters

def script (text : String) : Operation Unit := onConnection fun c => scriptOn c text

/-- ends the transaction of a batch as the batch ended; where a rollback fails, the connection is closed -/
def concludeBatch (c : Nat) : Except Halt Nat → Operation Nat
  | .ok total => do
    scriptOn c "COMMIT"
    return total
  | .error (.failed error) => do
    match ← attempt (scriptOn c "ROLLBACK") with
    | .ok () => throw (.failed error)
    | .error (.failed _) =>
      shut c
      throw (.failed error)
    | .error .dropped => throw .dropped
  | .error .dropped => throw .dropped

/-- runs a statement once for each list of parameters, in a transaction of its own -/
def executeMany (statement : String) (rows : List (List Value)) : Operation Nat :=
  onConnection fun c => do
    scriptOn c "BEGIN"
    concludeBatch c (← attempt (executeManyOn c statement rows))

end Tabula.Postgres.Engine
