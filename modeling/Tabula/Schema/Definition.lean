import Tabula.Schema.Name
import Tabula.Model.Basic
/-!
# Table definitions

The statements that make the table of a model, as data and as text: the table with its columns, key and unique
groups, then its indexes, then the comments.
-/

namespace Tabula

open Sql (identifier literal)

namespace Schema

/-- a column of a table -/
structure Column where
  name : String
  type : String
  notNull : Bool
  unique : Bool
  primaryKey : Bool
  deriving DecidableEq

/-- one entry of a table definition -/
inductive Entry where
  | column (c : Column)
  /-- a key of several columns -/
  | primaryKey (columns : List String)
  | unique (name : String) (columns : List String)
  deriving DecidableEq

/-- a statement of a script; `safe` ones do nothing where the object is already there -/
inductive Ddl where
  | createTable (safe : Bool) (table : String) (entries : List Entry)
  | createIndex (safe : Bool) (name table : String) (columns : List String)
  | commentOnTable (table text : String)
  | commentOnColumn (table column text : String)
  /-- removes every row -/
  | clear (table : String)
  | drop (table : String)
  deriving DecidableEq

/-- names as quoted identifiers, separated by commas -/
def columnList (names : List String) : String := ", ".intercalate (names.map identifier)

def Column.text (c : Column) : String :=
  identifier c.name ++ " " ++ c.type ++ (if c.notNull then " NOT NULL" else "")
    ++ (if c.unique then " UNIQUE" else "") ++ (if c.primaryKey then " PRIMARY KEY" else "")

def Entry.text : Entry → String
  | column c => c.text
  | primaryKey columns => "PRIMARY KEY (" ++ columnList columns ++ ")"
  | unique name columns => "CONSTRAINT " ++ identifier name ++ " UNIQUE (" ++ columnList columns ++ ")"

/-- the words of a statement that does nothing where the object is already there -/
def guardText (safe : Bool) : String := if safe then "IF NOT EXISTS " else ""

def Ddl.text : Ddl → String
  | createTable safe table entries =>
    "CREATE TABLE " ++ guardText safe ++ identifier table ++ " (\n    "
      ++ ",\n    ".intercalate (entries.map Entry.text) ++ "\n);"
  | createIndex safe name table columns =>
    "CREATE INDEX " ++ guardText safe ++ identifier name ++ " ON " ++ identifier table ++ " ("
      ++ columnList columns ++ ");"
  | commentOnTable table text => "COMMENT ON TABLE " ++ identifier table ++ " IS " ++ literal text ++ ";"
  | commentOnColumn table column text =>
    "COMMENT ON COLUMN " ++ identifier table ++ "." ++ identifier column ++ " IS " ++ literal text ++ ";"
  | clear table => "DELETE FROM " ++ identifier table ++ ";"
  | drop table => "DROP TABLE IF EXISTS " ++ identifier table ++ ";"

/-- the text of several statements, one after another -/
def scriptText (ddl : List Ddl) : String := "\n".intercalate (ddl.map Ddl.text)

end Schema

open Schema (Column Entry Ddl)

/-- the column of a field; a composite key is declared apart -/
def Field.columnDefinition (f : Field) (composite : Bool) : Column where
  name := f.column
  type := f.kind.columnType
  notNull := !f.nullable
  unique := f.isUnique && !f.isKey
  primaryKey := f.isKey && !composite

namespace Model

/-- the columns of the named fields -/
def columnsOf (m : Model) (names : List String) : List String := (names.filterMap m.field?).map Field.column

/-- the entries of the table -/
def tableEntries (m : Model) : List Entry :=
  m.fields.map (fun f => .column (f.columnDefinition m.isComposite))
    ++ (if m.isComposite then [.primaryKey (m.key.map m.column)] else [])
    ++ m.uniqueTogether.map fun group =>
      let columns := m.columnsOf group
      .unique (Schema.name "uid" m.table columns) columns

/-- the statement that makes the table -/
def createTable (m : Model) (safe : Bool) : Ddl := .createTable safe m.table m.tableEntries

/-- the column lists that get an index: single fields first, then the declared groups -/
def indexedColumns (m : Model) : List (List String) :=
  (m.fields.filter fun f => f.isIndexed && !f.isKey && !f.isUnique).map (fun f => [f.column])
    ++ m.indexes.map m.columnsOf

/-- the statements that make the indexes -/
def createIndexes (m : Model) (safe : Bool) : List Ddl :=
  m.indexedColumns.map fun columns => .createIndex safe (Schema.name "idx" m.table columns) m.table columns

/-- the statements that comment on the table and its columns -/
def comments (m : Model) : List Ddl :=
  (m.description.toList.map (.commentOnTable m.table ·))
    ++ m.fields.filterMap fun f => f.description.map (.commentOnColumn m.table f.column ·)

/-- the whole script: table, indexes, comments -/
def script (m : Model) (safe : Bool) : List Ddl := m.createTable safe :: (m.createIndexes safe ++ m.comments)

/-- the text of the script -/
def scriptText (m : Model) (safe : Bool) : String := Schema.scriptText (m.script safe)

end Model

end Tabula
