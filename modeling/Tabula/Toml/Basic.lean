import Tabula.Json.Basic
/-!
# Sections and dotted keys

A configuration file in TOML builds one table from assignments and headers.  A table remembers how it came
about, because that decides what may still be added to it: a table that a header declares is complete when the
next header begins, while one that was only named on the way to another may still be declared.

The finished file is a document like any other; a date is a document with one member, named `dateMember`.
-/

namespace Tabula.Toml

/-- how a table came about -/
inductive Origin where
  /-- named on the way to another table by a header -/
  | implied
  /-- named by a key with dots -/
  | dotted
  /-- declared by a header of its own -/
  | declared
  deriving DecidableEq

/-- what stands under a key while a file is read -/
inductive Entry where
  /-- a value, which nothing may extend -/
  | value (document : Json)
  | table (origin : Origin) (entries : List (String × Entry))
  /-- the tables declared by headers in double brackets, in reverse -/
  | tables (rows : List (List (String × Entry)))

abbrev Entries := List (String × Entry)

/-- puts `e` under a key, at its place if the key is there -/
def replaced (key : String) (e : Entry) : Entries → Entries
  | [] => [(key, e)]
  | (k, old) :: rest => if k = key then (k, e) :: rest else (k, old) :: replaced key e rest

/-- assigns a value to a key below the tables named by `path`; only tables made by keys with dots are
extended -/
def assign (key : String) (document : Json) : List String → Entries → Option Entries
  | [], entries =>
    match entries.lookup key with
    | some _ => none
    | none => some (entries ++ [(key, .value document)])
  | p :: path, entries =>
    match entries.lookup p with
    | none => (assign key document path []).map fun below => entries ++ [(p, .table .dotted below)]
    | some (.table origin below) =>
      if origin = .declared || (path.isEmpty && origin = .implied) then none
      else (assign key document path below).map fun below => replaced p (.table origin below) entries
    | some (.tables (last :: rest)) =>
      if path.isEmpty then none
      else (assign key document path last).map fun below => replaced p (.tables (below :: rest)) entries
    | some _ => none

/-- changes the table named by `path`, in a list of tables the last one -/
def atPath (change : Entries → Option Entries) : List String → Entries → Option Entries
  | [], entries => change entries
  | p :: path, entries =>
    match entries.lookup p with
    | none => (atPath change path []).map fun below => entries ++ [(p, .table .implied below)]
    | some (.table origin below) =>
      (atPath change path below).map fun below => replaced p (.table origin below) entries
    | some (.tables (last :: rest)) =>
      (atPath change path last).map fun below => replaced p (.tables (below :: rest)) entries
    | some _ => none

/-- a key with dots, its last part apart -/
structure Key where
  path : List String
  last : String

/-- a key and the document assigned to it -/
abbrev Assignment := Key × Json

/-- makes assignments one after the other -/
def assignAll (assignments : List Assignment) (entries : Entries) : Option Entries :=
  assignments.foldlM (fun es a => assign a.1.last a.2 a.1.path es) entries

/-- the part of a file below one header -/
inductive Section where
  | table (key : Key) (assignments : List Assignment)
  | row (key : Key) (assignments : List Assignment)

/-- adds a section to the file's table -/
def Section.attach (entries : Entries) : Section → Option Entries
  | table key assignments =>
    atPath (fun es =>
      match es.lookup key.last with
      | none => (assignAll assignments []).map fun below => es ++ [(key.last, .table .declared below)]
      | some (.table .implied before) =>
        (assignAll assignments before).map fun below => replaced key.last (.table .declared below) es
      | some _ => none) key.path entries
  | row key assignments =>
    atPath (fun es =>
      match es.lookup key.last with
      | none => (assignAll assignments []).map fun below => es ++ [(key.last, .tables [below])]
      | some (.tables rows) =>
        (assignAll assignments []).map fun below => replaced key.last (.tables (below :: rows)) es
      | some _ => none) key.path entries

/-! ## Documents -/

mutual

/-- a finished entry as a document -/
def Entry.document : Entry → Json
  | .value j => j
  | .table _ entries => .obj (members entries)
  | .tables rows => .arr (rowDocuments rows).reverse

def members : Entries → List (String × Json)
  | [] => []
  | (k, e) :: rest => (k, e.document) :: members rest

def rowDocuments : List Entries → List Json
  | [] => []
  | r :: rest => .obj (members r) :: rowDocuments rest

end

/-- the member under which a date keeps its text -/
def dateMember : String := "$__toml_private_datetime"

/-- a date as a document -/
def dateDocument (text : String) : Json := .obj [(dateMember, .str text)]

end Tabula.Toml
