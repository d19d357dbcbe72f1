import Tabula.Field.Basic
import Tabula.Json.Reader
import Tabula.Text.Case
/-!
# Conversion of values

`Field.accept` turns a value of the caller or of the database into the field's own representation, and
`Field.toStorage` turns that into the parameter that is bound.  A missing value passes; a value with an obvious
reading is converted; any other is refused.
-/

namespace Tabula

namespace Value

/-- the value as a whole number -/
def readWhole? : Value → Option Int64
  | int i => some i
  | bool b => some (if b then 1 else 0)
  | float d =>
    if d.isNearlyWhole && Text.fitsSigned 64 d.truncated then some (Int64.ofInt d.truncated) else none
  | decimal d => if d.isWhole then d.toInt64? else none
  | string s => Text.int64OfText? (Text.trim s).toList
  | _ => none

/-- the value as a whole number of `bits` bits -/
def readWord? (bits : Nat) (v : Value) : Option Value :=
  v.readWhole?.bind fun i => if Text.fitsSigned bits i.toInt then some (.int i) else none

/-- the value as a floating-point number -/
def readFloat? : Value → Option Double
  | float d => some d
  | int i => some (.ofInt i.toInt)
  | decimal d => some d.toDouble
  | string s => Double.ofText? (Text.trim s).toList
  | _ => none

/-- the value as an exact number -/
def readDecimal? : Value → Option Decimal
  | decimal d => some d
  | int i => some (.ofInt64 i)
  | float d => Decimal.ofDouble? d
  | string s => Decimal.ofText? (Text.trim s).toList
  | _ => none

/-- the value as text -/
def readText? (v : Value) : Option String :=
  match v with
  | string s => some s
  | int _ | float _ | decimal _ | bool _ | uuid _ => some v.text
  | _ => none

/-- the value as a truth value -/
def readBool? : Value → Option Bool
  | bool b => some b
  | int i => if i = 0 then some false else if i = 1 then some true else none
  | string s =>
    let word := Text.foldCase (Text.trim s)
    if word = "true" || word = "t" || word = "1" then some true
    else if word = "false" || word = "f" || word = "0" then some false
    else none
  | _ => none

/-- the value as a moment -/
def readInstant? : Value → Option Instant
  | instant t => some t
  | string s => Instant.ofText? (Text.trim s).toList
  | _ => none

/-- the value as a date -/
def readDate? : Value → Option Date
  | date d => some d
  | instant t => some t.date
  | string s => Date.ofText? (Text.trim s).toList
  | _ => none

/-- the value as a length of time; a whole number counts microseconds -/
def readSpan? : Value → Option Span
  | span s => some s
  | v => v.readWhole?.map fun n => Span.ofMicros n.toInt

/-- the value as an identifier -/
def readUuid? : Value → Option Uuid
  | uuid u => some u
  | string s => Uuid.ofText? s.toList
  | _ => none

/-- the value as bytes -/
def readBytes? : Value → Option Bytes
  | bytes b => some b
  | string s => some (Text.utf8 s)
  | _ => none

/-- the value as a document: text is read as one, anything else becomes one -/
def readJson : Value → Outcome Json
  | string s => match Json.ofText? s with
    | some j => .ok j
    | none => failure .fieldValue "invalid JSON document: not well-formed"
  | bytes b => failure .fieldValue ("cannot store " ++ (bytes b).kind ++ " value as JSON")
  | span s => failure .fieldValue ("cannot store " ++ (span s).kind ++ " value as JSON")
  | v => .ok v.toJson

end Value

namespace Field

/-- the refusal of a value -/
def refusal (f : Field) (v : Value) : Error :=
  ⟨.fieldValue, "field '" ++ f.name ++ "' (" ++ f.kind.inspect ++ ") cannot accept " ++ v.kind ++ " value '"
    ++ v.text ++ "'"⟩

/-- an optional reading, a missing one being the refusal of the value -/
def orRefuse (f : Field) (v : Value) : Option Value → Outcome Value
  | some r => .ok r
  | none => .error (f.refusal v)

/-- the field's own representation of a value -/
def accept (f : Field) (v : Value) : Outcome Value :=
  if v.isNull then .ok .null else
  match f.kind with
  | .int => f.orRefuse v (v.readWord? 32)
  | .smallInt => f.orRefuse v (v.readWord? 16)
  | .bigInt | .auto | .version => f.orRefuse v (v.readWhole?.map .int)
  | .char _ | .text => f.orRefuse v (v.readText?.map .string)
  | .boolean => f.orRefuse v (v.readBool?.map .bool)
  | .decimal _ places => f.orRefuse v (v.readDecimal?.map fun d => .decimal (d.round places))
  | .instant _ _ => f.orRefuse v (v.readInstant?.map .instant)
  | .date => f.orRefuse v (v.readDate?.map .date)
  | .span => f.orRefuse v (v.readSpan?.map .span)
  | .float => f.orRefuse v (v.readFloat?.map .float)
  | .json => v.readJson.map .json
  | .uuid => f.orRefuse v (v.readUuid?.map .uuid)
  | .binary => f.orRefuse v (v.readBytes?.map .bytes)

/-- the parameter bound for a value: its own representation, a length of time in whole microseconds -/
def toStorage (f : Field) (v : Value) : Outcome Value := do
  match ← f.accept v with
  | .span s => f.orRefuse v (s.micros?.map .int)
  | own => return own

end Field

end Tabula
