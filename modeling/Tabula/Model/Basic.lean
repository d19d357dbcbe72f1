import Tabula.Database.Name
import Tabula.Filter.Lookup
/-!
# Models

A model describes one table: its fields in order, its key, and the groups of fields that are unique or indexed
together.  A model is made from a `Draft` by `Draft.build`, which checks the definition; models made in another
way carry no guarantee.
-/

namespace Tabula

/-- the description of a table -/
structure Model where
  name : String
  table : String
  /-- the database that its rows live in, unless a query picks another -/
  database : String
  /-- an abstract model has no table and only lends its fields to others -/
  isAbstract : Bool
  description : Option String
  uniqueTogether : List (List String)
  indexes : List (List String)
  fields : List Field
  /-- the positions of the key fields, in key order -/
  key : List Nat

namespace Model

/-- the positions of the fields that satisfy a condition, ascending -/
def positionsWhere (fields : List Field) (p : Field → Bool) : List Nat :=
  (fields.zipIdx.filter fun fi => p fi.1).map Prod.snd

/-- the position of the last field of that name -/
def position? (m : Model) (name : String) : Option Nat :=
  (positionsWhere m.fields (·.name == name)).getLast?

/-- as `position?`, an unknown name being an error -/
def position (m : Model) (name : String) : Outcome Nat :=
  match m.position? name with
  | some i => .ok i
  | none => failure .field ("model '" ++ m.name ++ "' has no field '" ++ name ++ "'")

/-- the field of that name -/
def field? (m : Model) (name : String) : Option Field := (m.position? name).bind (m.fields[·]?)

/-- the field in that column -/
def fieldForColumn? (m : Model) (column : String) : Option Field := m.fields.find? (·.column == column)

/-- the column at a position -/
def column (m : Model) (i : Nat) : String := ((m.fields[i]?).map Field.column).getD ""

/-- the fields of the key -/
def keyFields (m : Model) : List Field := m.key.filterMap (m.fields[·]?)

/-- the names of the key fields -/
def keyNames (m : Model) : List String := m.keyFields.map Field.name

/-- whether the key has several fields -/
def isComposite (m : Model) : Bool := 1 < m.key.length

/-- the positions of the fields that a save fills in -/
def automaticPositions (m : Model) : List Nat := positionsWhere m.fields (·.kind.isAutomatic)

/-- the position of the version counter -/
def versionPosition? (m : Model) : Option Nat := (positionsWhere m.fields (·.kind == .version)).head?

/-- the version counter -/
def versionField? (m : Model) : Option Field := m.versionPosition?.bind (m.fields[·]?)

/-- the positions written on insertion: all that the database does not make itself -/
def insertPositions (m : Model) : List Nat := positionsWhere m.fields (!·.kind.isGenerated)

/-- the positions read back on insertion -/
def returningPositions (m : Model) : List Nat := positionsWhere m.fields (·.kind.isGenerated)

/-! ## The catalog of filters -/

/-- all filter keys: those of each field under its name, and those of a key field under `pk` -/
def catalog (m : Model) : List (String × CatalogEntry) :=
  let own := m.fields.flatMap fun f => f.catalog f.name
  match m.keyFields with
  | [f] => if f.name != "pk" then own ++ f.catalog "pk" else own
  | _ => own

/-- the entry of a filter key; of several with one key the last counts -/
def filter? (m : Model) (key : String) : Option CatalogEntry :=
  (m.catalog.reverse.find? (·.1 == key)).map Prod.snd

/-- the number of different filter keys -/
def filterCount (m : Model) : Nat := (m.catalog.map Prod.fst).eraseDups.length

end Model

end Tabula
