import Tabula.Sql.Condition
/-!
# Statements

The statements sent to a database, as data.  Values never occur in them: an operand is a column, a path into a
document column, or the number of a bound parameter.
-/

namespace Tabula.Sql

/-- what a condition or a sort key speaks about -/
inductive Operand where
  | column (name : String)
  /-- the value that a path leads to inside a document -/
  | path (column : String) (segments : List String)
  /-- the text of that value -/
  | pathText (column : String) (segments : List String)
  /-- the `n`-th bound parameter, counted from one -/
  | parameter (n : Nat)
  deriving DecidableEq

/-- one step of a path: digits index an array, anything else names a member -/
def segmentText (segment : String) : String :=
  if !segment.isEmpty && segment.toList.all Char.isDigit then segment else literal segment

/-- the steps of a path behind their arrows -/
def stepsText (segments : List String) : String := String.join (segments.map fun s => "->" ++ segmentText s)

/-- the text of an operand -/
def Operand.text : Operand → String
  | column name => identifier name
  | path name segments => identifier name ++ stepsText segments
  | pathText name segments =>
    match segments.getLast? with
    | none => identifier name ++ " #>> '\x7b\x7d'"
    | some last => identifier name ++ stepsText segments.dropLast ++ "->>" ++ segmentText last
  | parameter n => "$" ++ toString n

/-- a sort key and its direction -/
structure SortKey where
  operand : Operand
  descending : Bool

def SortKey.text (k : SortKey) : String := k.operand.text ++ if k.descending then " DESC" else " ASC"

/-- which rows of a table a statement is about: all of them, or those that satisfy every condition of a list -/
abbrev Restriction := Option (List (Condition Operand))

/-- the rows that satisfy conditions; no condition restricts nothing -/
def restrict (cs : List (Condition Operand)) : Restriction := if cs.isEmpty then none else some cs

/-- rows of a table, filtered, sorted and cut -/
structure Select where
  distinct : Bool := false
  columns : List String
  table : String
  rows : Restriction := none
  /-- the sort keys; none leaves the order to the database -/
  order : Option (List SortKey) := none
  limit : Option Nat := none
  offset : Option Nat := none

/-- a statement -/
inductive Statement where
  | select (s : Select)
  /-- the number of rows of a table of a restriction -/
  | count (table : String) (rows : Restriction)
  /-- the number of rows that a selection gives -/
  | countOf (s : Select)
  /-- how the database would run a selection -/
  | explain (s : Select)
  | insert (table : String) (columns returning : List String)
  /-- sets columns to parameters -/
  | update (table : String) (assignments : List (String × Nat)) (rows : Restriction)
  | delete (table : String) (rows : Restriction)

/-- names as quoted identifiers, separated by commas -/
def identifiers (names : List String) : String := ", ".intercalate (names.map identifier)

/-- the clause that restricts rows -/
def Restriction.text : Restriction → String
  | none => ""
  | some cs => " WHERE " ++ Condition.listText Operand.text cs

/-- the text of a selection -/
def Select.text (s : Select) : String :=
  "SELECT " ++ (if s.distinct then "DISTINCT " else "") ++ identifiers s.columns ++ " FROM " ++ identifier s.table
    ++ Restriction.text s.rows
    ++ (match s.order with
      | some keys => " ORDER BY " ++ ", ".intercalate (keys.map SortKey.text)
      | none => "")
    ++ (match s.limit with
      | some n => " LIMIT " ++ toString n
      | none => "")
    ++ (match s.offset with
      | some n => " OFFSET " ++ toString n
      | none => "")

/-- the placeholders of the parameters `1` to `n` -/
def placeholders (n : Nat) : String :=
  ", ".intercalate ((List.range n).map fun i => (Operand.parameter (i + 1)).text)

/-- a column set to a parameter -/
def assignmentText (a : String × Nat) : String := identifier a.1 ++ " = " ++ (Operand.parameter a.2).text

/-- the text of a statement -/
def Statement.text : Statement → String
  | select s => s.text
  | count table rows => "SELECT COUNT(*) FROM " ++ identifier table ++ Restriction.text rows
  | countOf s => "SELECT COUNT(*) FROM (" ++ s.text ++ ") AS \"_sub\""
  | explain s => "EXPLAIN (FORMAT JSON) " ++ s.text
  | insert table columns returning =>
    "INSERT INTO " ++ identifier table
      ++ (if columns.isEmpty then " DEFAULT VALUES"
        else " (" ++ identifiers columns ++ ") VALUES (" ++ placeholders columns.length ++ ")")
      ++ (if returning.isEmpty then "" else " RETURNING " ++ identifiers returning)
  | update table assignments rows =>
    "UPDATE " ++ identifier table ++ " SET " ++ ", ".intercalate (assignments.map assignmentText) ++ Restriction.text rows
  | delete table rows => "DELETE FROM " ++ identifier table ++ Restriction.text rows

end Tabula.Sql
