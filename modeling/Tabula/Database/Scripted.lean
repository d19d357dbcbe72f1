import Tabula.Database.Call
/-!
# Scripted databases

Databases that answer from a script and record every statement, for trying out what a program does.  A query
takes the next list of rows, a statement the next count; with nothing scripted there are no rows and one row is
touched.  A scripted error answers the first statement that begins as the error says.
-/

namespace Tabula

/-- the script of one database -/
structure Script where
  rows : List (List Row) := []
  counts : List Nat := []
  /-- errors, each with the beginning of the statement that it answers -/
  errors : List (String × Error) := []
  closed : Bool := false

namespace Script

/-- the error for a statement, if one is scripted, and the script without it -/
def takeError (s : Script) (statement : String) : Option Error × Script :=
  match s.errors.find? fun e => e.1.toList.isPrefixOf statement.toList with
  | none => (none, s)
  | some (_, error) =>
    let before := s.errors.takeWhile fun e => !e.1.toList.isPrefixOf statement.toList
    (some error, { s with errors := before ++ s.errors.drop (before.length + 1) })

/-- the next count -/
def takeCount (s : Script) : Nat × Script :=
  match s.counts with
  | [] => (1, s)
  | n :: rest => (n, { s with counts := rest })

/-- the next rows -/
def takeRows (s : Script) : List Row × Script :=
  match s.rows with
  | [] => ([], s)
  | r :: rest => (r, { s with rows := rest })

end Script

/-- a recorded statement -/
structure Recorded where
  database : String
  statement : String
  parameters : List Value

/-- scripted databases, by their numbers, and what they recorded, the latest first -/
structure Stage where
  scripts : List (Nat × Script) := []
  log : List Recorded := []

namespace Stage

/-- the script of a database -/
def script (s : Stage) (db : Database) : Script := (s.scripts.lookup db.id).getD {}

/-- replaces the script of a database -/
def withScript (s : Stage) (db : Database) (script : Script) : Stage :=
  { s with scripts := s.scripts.map fun e => if e.1 = db.id then (e.1, script) else e }

/-- changes the script of a database -/
def adjust (s : Stage) (db : Database) (f : Script → Script) : Stage := s.withScript db (f (s.script db))

/-- a new database with an empty script -/
def attach (s : Stage) (name : String) : Database × Stage :=
  let db : Database := ⟨name, s.scripts.length⟩
  (db, { s with scripts := s.scripts ++ [(db.id, {})] })

/-- records a statement and answers with the error scripted for it, or else from the rest of the script -/
def record {α : Type} (s : Stage) (db : Database) (inTransaction : Bool) (statement : String)
    (parameters : List Value) (answer : Script → α × Script) : Outcome α × Stage :=
  let shown := if inTransaction then "[tx] " ++ statement else statement
  let s := { s with log := ⟨db.name, shown, parameters⟩ :: s.log }
  match (s.script db).takeError statement with
  | (some e, script) => (.error e, s.withScript db script)
  | (none, script) =>
    let (a, script) := answer script
    (.ok a, s.withScript db script)

/-- answers with nothing and leaves the script as it is -/
def nothing (script : Script) : Unit × Script := ((), script)

/-- the refusal of a call on a closed database -/
def closedError (db : Database) : Error := ⟨.operational, "database '" ++ db.name ++ "' is closed"⟩

/-- answers a call on a database unless it is closed, on the connection of the caller's transaction if there
is one -/
def routed {α : Type} (s : Stage) (db : Database) (pinned : Option Connection) (statement : String)
    (parameters : List Value) (answer : Script → α × Script) : Outcome α × Stage :=
  if (s.script db).closed then (.error (closedError db), s)
  else
    match pinned with
    | some c => s.record c.database true statement parameters answer
    | none => s.record db false statement parameters answer

/-- runs a statement once for each list of parameters until one fails; adds the counts -/
def repeated (db : Database) (pinned : Option Connection) (statement : String) :
    Nat → List (List Value) → Stage → Outcome Nat × Stage
  | total, [], s => (.ok total, s)
  | total, parameters :: rest, s =>
    match s.routed db pinned statement parameters Script.takeCount with
    | (.ok n, s) => repeated db pinned statement (total + n) rest s
    | (.error e, s) => (.error e, s)

/-- answers a call -/
def answer (s : Stage) : (call : Call) → call.Answer × Stage
  | .execute db pinned statement parameters => s.routed db pinned statement parameters Script.takeCount
  | .query db pinned statement parameters => s.routed db pinned statement parameters Script.takeRows
  | .executeMany db pinned statement rows => repeated db pinned statement 0 rows s
  | .script db _ text => s.routed db none text [] nothing
  | .close db => (s.adjust db fun script => { script with closed := true }).record db false "CLOSE" [] nothing
  | .begin db =>
    match s.routed db none "BEGIN" [] nothing with
    | (.ok (), s) => (.ok ⟨db, 0⟩, s)
    | (.error e, s) => (.error e, s)
  | .commit c => s.record c.database false "COMMIT" [] nothing
  | .rollback c => s.record c.database false "ROLLBACK" [] nothing
  | .release c => ((), (s.record c.database false "RELEASE" [] nothing).2)
  | .discard c => ((), (s.record c.database false "DISCARD" [] nothing).2)

end Stage

end Tabula
