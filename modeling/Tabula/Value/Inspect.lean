import Tabula.Value.Basic
import Tabula.Text.Escaped
/-!
# Inspecting values

The text that shows a value to a programmer: the constructor applied to what it holds.
-/

namespace Tabula

open Text

/-- date and time, `Z` for universal time -/
def Instant.inspect (t : Instant) : String := t.localText ++ "Z"

/-- whole seconds towards the past and the nanoseconds above them -/
def Span.inspect (s : Span) : String :=
  shownRecord "TimeDelta" [("secs", toString (s.nanos / 1000000000)), ("nanos", toString (s.nanos % 1000000000))]

namespace Json

mutual

def inspect : Json → String
  | null => "Null"
  | bool b => shownCall "Bool" [shownBool b]
  | int i => shownCall "Number" [toString i]
  | float d => shownCall "Number" [FloatStyle.document.text d]
  | str s => shownCall "String" [shown s]
  | arr items => "Array " ++ shownList (inspectItems items)
  | obj members => "Object " ++ shownMap (inspectMembers members)

def inspectItems : List Json → List String
  | [] => []
  | x :: xs => inspect x :: inspectItems xs

def inspectMembers : List (String × Json) → List (String × String)
  | [] => []
  | (k, x) :: xs => (shown k, inspect x) :: inspectMembers xs

end

end Json

namespace Value

mutual

def inspect : Value → String
  | null => "Null"
  | bool b => shownCall "Bool" [shownBool b]
  | int i => shownCall "Int" [toString i.toInt]
  | float d => shownCall "Float" [FloatStyle.inspect.text d]
  | decimal d => shownCall "Decimal" [d.text]
  | string s => shownCall "String" [shown s]
  | bytes b => shownCall "Bytes" [shownList (b.map fun x => toString x.toNat)]
  | date d => shownCall "Date" [d.text]
  | instant t => shownCall "DateTime" [t.inspect]
  | span s => shownCall "Duration" [s.inspect]
  | uuid u => shownCall "Uuid" [u.text]
  | json j => shownCall "Json" [j.inspect]
  | list items => shownCall "List" [shownList (inspectItems items)]

def inspectItems : List Value → List String
  | [] => []
  | x :: xs => inspect x :: inspectItems xs

end

end Value

end Tabula
