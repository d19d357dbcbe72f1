import Tabula.Value.Basic
import Tabula.Json.Reader
/-!
# Tagged documents

A document form of values that keeps their kinds: an object whose only member is named for the kind and holds the
value's text.  `Value.ofTagged?` reads what `Value.tagged` writes.
-/

namespace Tabula

/-- a floating-point number as the sixteen hexadecimal digits of its word -/
def Double.wordText (d : Double) : String := if d.isNaN then "nan" else Text.hexPadded 16 d.bits.toNat

/-- the floating-point number of a word -/
def Double.ofWordText? (s : String) : Option Double :=
  if s = "nan" then some Double.nan
  else (Text.natOfHex? s.toList).map fun n => ⟨UInt64.ofNat n⟩

namespace Value

mutual

/-- the tagged document of a value -/
def tagged : Value → Json
  | null => .null
  | bool b => .obj [("bool", .bool b)]
  | int i => .obj [("int", .str (toString i.toInt))]
  | float d => .obj [("float", .str d.wordText)]
  | decimal d => .obj [("decimal", .str d.text)]
  | string s => .obj [("str", .str s)]
  | bytes b => .obj [("bytes", .str (Text.hexOfBytes b))]
  | date d => .obj [("date", .str d.text)]
  | instant t => .obj [("datetime", .str t.text)]
  | span s => .obj [("duration", .str (toString s.nanos))]
  | uuid u => .obj [("uuid", .str u.text)]
  | json j => .obj [("json", .str j.text)]
  | list items => .obj [("list", .arr (taggedItems items))]

def taggedItems : List Value → List Json
  | [] => []
  | x :: xs => tagged x :: taggedItems xs

end

/-- the value of a kind that is written as text -/
def ofTaggedText? (kind s : String) : Option Value :=
  match kind with
  | "int" => (Text.int64OfText? s.toList).map int
  | "float" => (Double.ofWordText? s).map float
  | "decimal" => (Decimal.ofText? s.toList).map decimal
  | "str" => some (string s)
  | "bytes" => (Text.bytesOfHex? s.toList).map bytes
  | "date" => (Date.ofText? s.toList).map date
  | "datetime" => (Instant.ofText? s.toList).map instant
  | "duration" => (Text.intOfText? s.toList).map fun n => span ⟨n⟩
  | "uuid" => (Uuid.ofText? s.toList).map uuid
  | "json" => (Json.ofText? s).map json
  | _ => none

mutual

/-- the value of a tagged document -/
def ofTagged? : Json → Option Value
  | .null => some null
  | .obj [("bool", .bool b)] => some (bool b)
  | .obj [("list", .arr items)] => (ofTaggedItems? items).map list
  | .obj [(kind, .str s)] => ofTaggedText? kind s
  | _ => none

def ofTaggedItems? : List Json → Option (List Value)
  | [] => some []
  | x :: xs => do
    let v ← ofTagged? x
    return v :: (← ofTaggedItems? xs)

end

end Value

end Tabula
