import Tabula.Model.Basic
/-!
# Drafts of models

A draft collects the definition of a model.  `build` merges what is inherited, checks the definition and gives
the model, or the first fault it finds.
-/

namespace Tabula

/-- a model in the making -/
structure Draft where
  name : String
  table : Option String := none
  database : String := defaultDatabase
  isAbstract : Bool := false
  description : Option String := none
  fields : List Field := []
  /-- the fields of all parents -/
  inherited : List Field := []
  /-- the composite key of a parent -/
  inheritedKey : List String := []
  /-- the composite key declared here -/
  key : List String := []
  uniqueTogether : List (List String) := []
  indexes : List (List String) := []

namespace Draft

/-- takes over the fields and the composite key of a parent -/
def inherit (parent : Model) (d : Draft) : Draft :=
  { d with
    inherited := d.inherited ++ parent.fields
    inheritedKey := if parent.isComposite then parent.keyNames else d.inheritedKey }

/-- the inherited fields that the draft does not replace -/
def kept (d : Draft) : List Field := d.inherited.filter fun p => d.fields.all (·.name != p.name)

/-- all fields of the model: what is kept, then its own -/
def merged (d : Draft) : List Field := d.kept ++ d.fields

/-- the first member that occurs earlier in the list -/
def firstRepeated? : List String → List String → Option String
  | _, [] => none
  | seen, s :: rest => if seen.contains s then some s else firstRepeated? (s :: seen) rest

/-- a fault of the definition -/
def fault (d : Draft) (text : String) : Error := ⟨.configuration, d.name ++ ": " ++ text⟩

def duplicatedKey (d : Draft) : Error := d.fault "duplicated pk not allowed."

/-- the position of the last field of that name -/
def lookup (d : Draft) (name : String) : Outcome Nat :=
  match (Model.positionsWhere d.merged (·.name == name)).getLast? with
  | some i => .ok i
  | none => .error (d.fault ("unknown field '" ++ name ++ "'"))

/-- no field is declared twice, every field is sound, no column is used twice -/
def checkFields (d : Draft) : Outcome Unit := do
  match firstRepeated? [] (d.fields.map Field.name) with
  | some name => .error (d.fault ("field '" ++ name ++ "' declared twice"))
  | none => .ok ()
  d.merged.forM Field.validate
  match firstRepeated? [] (d.merged.map Field.column) with
  | some column => .error (d.fault ("column '" ++ column ++ "' used twice"))
  | none => .ok ()

/-- the composite key that counts, from here or from a parent -/
def declaredKey (d : Draft) : Outcome (List String) :=
  if d.key.isEmpty then .ok d.inheritedKey
  else if !d.inheritedKey.isEmpty || d.kept.any (·.isKey) then .error d.duplicatedKey
  else .ok d.key

/-- the positions of the key: the field flagged as key, or the fields of the composite key -/
def keyPositions (d : Draft) : Outcome (List Nat) := do
  let flagged := Model.positionsWhere d.merged (·.isKey)
  let declared ← d.declaredKey
  if declared.isEmpty then
    if 1 < flagged.length then .error d.duplicatedKey else .ok flagged
  else if !flagged.isEmpty then .error d.duplicatedKey
  else
    let positions ← declared.mapM d.lookup
    if positions.eraseDups.length = positions.length then .ok positions
    else .error (d.fault "primary key names a field twice")

/-- a model without fields is abstract whatever it says -/
def resultIsAbstract (d : Draft) : Bool := d.isAbstract || d.merged.isEmpty

/-- there is a key, and no field of it may be missing -/
def checkKey (d : Draft) (key : List Nat) : Outcome Unit :=
  if !d.resultIsAbstract && key.isEmpty then .error (d.fault "model must have pk or be abstract.")
  else
    match (key.filterMap (d.merged[·]?)).find? (·.nullable) with
    | some f => .error (d.fault ("primary key field '" ++ f.name ++ "' cannot be nullable"))
    | none => .ok ()

/-- there is at most one version counter -/
def checkVersion (d : Draft) : Outcome Unit :=
  if 1 < (Model.positionsWhere d.merged (·.kind == .version)).length then
    .error (d.fault "model class can only have one DataVersionField.")
  else .ok ()

/-- every group names fields, and at least one -/
def checkGroups (d : Draft) (what : String) (groups : List (List String)) : Outcome Unit :=
  groups.forM fun group => do
    if group.isEmpty then
      .error (d.fault ("'" ++ what ++ "' entries must name at least one field"))
    else
      group.forM fun name =>
        match d.lookup name with
        | .ok _ => .ok ()
        | .error _ => .error (d.fault ("'" ++ what ++ "' refers to nonexistent field '" ++ name ++ "'"))

/-- the model, if the definition is sound -/
def build (d : Draft) : Outcome Model := do
  d.checkFields
  let key ← d.keyPositions
  d.checkKey key
  d.checkVersion
  d.checkGroups "unique_together" d.uniqueTogether
  d.checkGroups "indexes" d.indexes
  return {
    name := d.name
    table := d.table.getD (Text.snakeCase d.name)
    database := d.database
    isAbstract := d.resultIsAbstract
    description := d.description
    uniqueTogether := d.uniqueTogether
    indexes := d.indexes
    fields := d.merged
    key := key }

end Draft

end Tabula
