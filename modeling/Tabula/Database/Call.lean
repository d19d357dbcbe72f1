import Tabula.Dialogue
import Tabula.Error
import Tabula.Keyed
import Tabula.Row
/-!
# Calls on databases

What the mapping of models asks of a database, as the questions of a dialogue.  A call on a database says which
connection the caller's transaction holds under the name of that database, if any; the database decides whether
the statement runs there.
-/

namespace Tabula

/-- a database attached under a name -/
structure Database where
  name : String
  /-- tells databases of one name apart -/
  id : Nat
  deriving DecidableEq, Repr

/-- a connection held for a transaction -/
structure Connection where
  database : Database
  /-- tells the connections of a database apart -/
  number : Nat
  deriving DecidableEq, Repr

/-- the connections of the transactions that the caller is in, by the names of their databases -/
abbrev Active := List (String × Connection)

/-- a call on a database -/
inductive Call where
  /-- runs a statement and counts the rows it touched -/
  | execute (on : Database) (pinned : Option Connection) (statement : String) (parameters : List Value)
  /-- runs a statement and fetches rows -/
  | query (on : Database) (pinned : Option Connection) (statement : String) (parameters : List Value)
  /-- runs a statement once for each list of parameters -/
  | executeMany (on : Database) (pinned : Option Connection) (statement : String) (rows : List (List Value))
  /-- runs statements without parameters -/
  | script (on : Database) (pinned : Option Connection) (text : String)
  /-- ends the use of the database -/
  | close (on : Database)
  /-- opens a transaction on a connection of its own -/
  | begin (on : Database)
  | commit (on : Connection)
  | rollback (on : Connection)
  /-- gives the connection of a finished transaction back -/
  | release (on : Connection)
  /-- gives up the connection of an unfinished transaction -/
  | discard (on : Connection)

/-- what a call is answered with -/
def Call.Answer : Call → Type
  | execute .. => Outcome Nat
  | query .. => Outcome (List Row)
  | executeMany .. => Outcome Nat
  | script .. => Outcome Unit
  | close _ => Outcome Unit
  | begin _ => Outcome Connection
  | commit _ => Outcome Unit
  | rollback _ => Outcome Unit
  | release _ => Unit
  | discard _ => Unit

/-- a computation that calls databases -/
abbrev Talk := Dialogue Call Call.Answer

namespace Database

/-- the connection of the caller's transaction under this database's name -/
def pinned (db : Database) (active : Active) : Option Connection := Keyed.find? db.name active

/-- runs a statement and counts the rows it touched -/
def execute (db : Database) (active : Active) (statement : String) (parameters : List Value) :
    Talk (Outcome Nat) :=
  .ask (.execute db (db.pinned active) statement parameters) .done

/-- runs a statement and fetches rows -/
def query (db : Database) (active : Active) (statement : String) (parameters : List Value) :
    Talk (Outcome (List Row)) :=
  .ask (.query db (db.pinned active) statement parameters) .done

/-- runs a statement once for each list of parameters -/
def executeMany (db : Database) (active : Active) (statement : String) (rows : List (List Value)) :
    Talk (Outcome Nat) :=
  .ask (.executeMany db (db.pinned active) statement rows) .done

/-- runs statements without parameters -/
def script (db : Database) (active : Active) (text : String) : Talk (Outcome Unit) :=
  .ask (.script db (db.pinned active) text) .done

/-- ends the use of the database -/
def close (db : Database) : Talk (Outcome Unit) := .ask (.close db) .done

/-- opens a transaction on a connection of its own -/
def begin (db : Database) : Talk (Outcome Connection) := .ask (.begin db) .done

end Database

namespace Connection

def commit (c : Connection) : Talk (Outcome Unit) := .ask (.commit c) .done

def rollback (c : Connection) : Talk (Outcome Unit) := .ask (.rollback c) .done

def release (c : Connection) : Talk Unit := .ask (.release c) .done

def discard (c : Connection) : Talk Unit := .ask (.discard c) .done

end Connection

end Tabula
