import Tabula.Database.Config
import Tabula.Dialogue
import Tabula.Postgres.Decode
import Tabula.Postgres.Fault
/-!
# Requests to a server

What an engine asks of its server, as the questions of a dialogue.  A caller may lose interest while a request is
under way: then the request is still carried out, but the computation that waits for it is dropped at this point.
-/

namespace Tabula.Postgres

/-- what the server knows of a statement -/
structure Prepared where
  parameters : List ColumnType
  /-- the names and types of the columns -/
  columns : List (String × ColumnType)
  deriving DecidableEq, Repr

/-- a request; connections are known by their numbers -/
inductive Request where
  /-- opens a connection to a database of the configured server -/
  | connect (config : DatabaseConfig) (database : String)
  /-- whether a connection is still open -/
  | isAlive (connection : Nat)
  /-- waits for another caller to give a connection back -/
  | wait (limit : Option Nat)
  | prepare (connection : Nat) (statement : String)
  /-- runs a prepared statement and counts the rows it touched -/
  | execute (connection : Nat) (statement : String) (parameters : List Cell)
  /-- runs a prepared statement and fetches rows -/
  | fetch (connection : Nat) (statement : String) (parameters : List Cell)
  /-- runs statements without parameters -/
  | batch (connection : Nat) (text : String)
  /-- asks the server to stop the statement that runs on a connection -/
  | cancel (connection : Nat)
  /-- closes a connection; the server ends its transaction -/
  | shut (connection : Nat)

/-- what comes of waiting for something -/
inductive Awaited (α : Type) where
  | arrived (reply : Except Fault α)
  /-- the waiting computation was dropped -/
  | dropped

/-- what a request is answered with -/
def Request.Answer : Request → Type
  | connect .. => Awaited Nat
  | isAlive _ => Bool
  | wait _ => Awaited Unit
  | prepare .. => Awaited Prepared
  | execute .. => Awaited Nat
  | fetch .. => Awaited (List (List Cell))
  | batch .. => Awaited Unit
  | cancel _ => Unit
  | shut _ => Unit

/-- a computation that talks to servers -/
abbrev Line := Dialogue Request Request.Answer

/-- the answers where no server listens -/
def Request.unanswered (_ : Unit) : (q : Request) → q.Answer × Unit
  | connect .. => (.arrived (.error .unreachable), ())
  | isAlive _ => (false, ())
  | wait _ | prepare .. | execute .. | fetch .. | batch .. => (.arrived (.error .closed), ())
  | cancel _ | shut _ => ((), ())

end Tabula.Postgres
