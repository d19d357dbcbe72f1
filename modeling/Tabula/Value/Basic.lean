import Tabula.Error
import Tabula.Uuid
import Tabula.Number.Decimal
import Tabula.Number.Shortest
import Tabula.Calendar.Instant
import Tabula.Json.Basic
/-!
# Values

What a field of a row can hold, whatever the database: `Value` carries the fields of instances, the arguments
of filters, the parameters of statements and the cells of rows.
-/

namespace Tabula

/-- a value of a field -/
inductive Value where
  | null
  | bool (b : Bool)
  | int (i : Int64)
  | float (d : Double)
  | decimal (d : Decimal)
  | string (s : String)
  | bytes (b : Bytes)
  | date (d : Date)
  | instant (t : Instant)
  | span (s : Span)
  | uuid (u : Uuid)
  | json (j : Json)
  | list (items : List Value)

instance : Inhabited Value := ⟨.null⟩

namespace Value

def isNull : Value → Bool
  | null => true
  | _ => false

def asBool : Value → Option Bool
  | bool b => some b
  | _ => none

def asInt : Value → Option Int64
  | int i => some i
  | _ => none

def asString : Value → Option String
  | string s => some s
  | _ => none

/-- the word for a value's kind in messages -/
def kind : Value → String
  | null => "null"
  | bool _ => "bool"
  | int _ => "int"
  | float _ => "float"
  | decimal _ => "decimal"
  | string _ => "string"
  | bytes _ => "bytes"
  | date _ => "date"
  | instant _ => "datetime"
  | span _ => "duration"
  | uuid _ => "uuid"
  | json _ => "json"
  | list _ => "list"

/-! ## Equality -/

mutual

/-- equality of values of one kind: decimals and floating-point numbers compare as numbers -/
def same : Value → Value → Bool
  | null, null => true
  | bool a, bool b => a == b
  | int a, int b => a == b
  | float a, float b => a.same b
  | decimal a, decimal b => a.same b
  | string a, string b => a == b
  | bytes a, bytes b => a == b
  | date a, date b => a == b
  | instant a, instant b => a == b
  | span a, span b => a == b
  | uuid a, uuid b => a == b
  | json a, json b => a.same b
  | list a, list b => sameItems a b
  | _, _ => false

/-- equality of items, one by one -/
def sameItems : List Value → List Value → Bool
  | [], [] => true
  | x :: xs, y :: ys => same x y && sameItems xs ys
  | _, _ => false

end

/-! ## Text -/

mutual

/-- the text shown to a user -/
def text : Value → String
  | null => "NULL"
  | bool b => if b then "true" else "false"
  | int i => toString i.toInt
  | float d => FloatStyle.plain.text d
  | decimal d => d.text
  | string s => s
  | bytes b => "<" ++ toString b.length ++ " bytes>"
  | date d => d.text
  | instant t => t.text
  | span s => s.text
  | uuid u => u.text
  | json j => j.text
  | list items => "(" ++ ", ".intercalate (itemTexts items) ++ ")"

def itemTexts : List Value → List String
  | [] => []
  | x :: xs => text x :: itemTexts xs

end

/-! ## Documents -/

mutual

/-- a value as a document: decimals, identifiers and times as strings, bytes as hexadecimal digits, spans as
whole microseconds -/
def toJson : Value → Json
  | null => .null
  | bool b => .bool b
  | int i => .ofInt64 i
  | float d => .ofDouble d
  | decimal d => .str d.text
  | string s => .str s
  | bytes b => .str (Text.hexOfBytes b)
  | date d => .str d.text
  | instant t => .str t.text
  | span s => match s.micros? with
    | some n => .ofInt64 n
    | none => .null
  | uuid u => .str u.text
  | json j => j
  | list items => .arr (itemsToJson items)

def itemsToJson : List Value → List Json
  | [] => []
  | x :: xs => toJson x :: itemsToJson xs

end

end Value

end Tabula
