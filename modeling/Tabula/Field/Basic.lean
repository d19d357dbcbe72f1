import Tabula.Field.Kind
import Tabula.Value.Inspect
/-!
# Fields

A field of a model: its name and column, what it means, and what a new instance holds for it.  A field is made
by `Field.new` and refined by the functions that follow.
-/

namespace Tabula

/-- the value that a new instance starts with -/
inductive Default where
  /-- one value for all -/
  | value (v : Value)
  /-- a value made from a random draw for each instance -/
  | generator (make : Nat → Value)

namespace Default

/-- the value for an instance that makes the given draw -/
def produce (draw : Nat) : Default → Value
  | value v => v
  | generator make => make draw

/-- the text that shows the default to a programmer -/
def inspect : Default → String
  | value v => Text.shownCall "Value" [v.inspect]
  | generator _ => "Generator(..)"

end Default

/-- a field of a model -/
structure Field where
  /-- its name in the program -/
  name : String
  /-- its name in the table -/
  column : String
  kind : FieldKind
  /-- whether it alone is the key -/
  isKey : Bool
  /-- whether it may be missing -/
  nullable : Bool
  default : Option Default
  /-- whether no two rows may share its value -/
  isUnique : Bool
  /-- whether its column has an index -/
  isIndexed : Bool
  /-- the comment on its column -/
  description : Option String

namespace Field

/-- a field of the given kind that must be present; version counters start at zero -/
def new (name : String) (kind : FieldKind) : Field where
  name := name
  column := name
  kind := kind
  isKey := false
  nullable := false
  default := if kind = .version then some (.value (.int 0)) else none
  isUnique := false
  isIndexed := false
  description := none

/-- the field in another column -/
def withColumn (column : String) (f : Field) : Field := { f with column := column }

/-- the field as the key; an identifier that has no default gets a random one -/
def asKey (f : Field) : Field :=
  { f with
    isKey := true
    default :=
      if f.kind = .uuid && f.default.isNone then some (.generator fun draw => .uuid (.random draw))
      else f.default }

/-- the field, allowed to be missing -/
def optional (f : Field) : Field := { f with nullable := true }

/-- the field with an index -/
def indexed (f : Field) : Field := { f with isIndexed := true }

/-- the field with values that no two rows share -/
def unique (f : Field) : Field := { f with isUnique := true }

/-- the field with a default -/
def withDefault (d : Default) (f : Field) : Field := { f with default := some d }

/-- the field with a comment -/
def described (text : String) (f : Field) : Field := { f with description := some text }

/-- refuses parameters that make no sense -/
def validate (f : Field) : Outcome Unit :=
  match f.kind.fault? with
  | some fault => failure .configuration ("field '" ++ f.name ++ "': " ++ fault)
  | none => .ok ()

/-- the value that a new instance holds -/
def initial (draw : Nat) (f : Field) : Value :=
  match f.default with
  | some d => d.produce draw
  | none => .null

/-- whether the caller has to give a value -/
def isRequired (f : Field) : Bool := f.default.isNone && !f.nullable && !f.kind.isGenerated

/-- the value after the current one of a version counter; a missing one counts as zero -/
def nextVersion (f : Field) (current : Value) : Outcome Value :=
  let n := (current.asInt.getD 0).toInt
  if n < Nat.pow 2 63 - 1 then .ok (.int (Int64.ofInt (n + 1)))
  else failure .fieldValue (f.name ++ " cannot be incremented past 9223372036854775807")

/-- the value that a save at the moment `now` fills in, or none to leave the current one -/
def automatic (f : Field) (now : Instant) (current : Value) (persisted : Bool) : Outcome (Option Value) :=
  match f.kind with
  | .version => (f.nextVersion current).map some
  | .instant true _ => .ok (some (.instant now))
  | .instant false true => .ok (if !persisted || current.isNull then some (.instant now) else none)
  | _ => .ok none

end Field

end Tabula
