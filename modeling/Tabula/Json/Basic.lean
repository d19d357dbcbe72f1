import Tabula.Keyed
import Tabula.Number.Shortest
import Tabula.Text.Hex
/-!
# Documents

JSON documents.  A number is a whole number of at most 64 bits or a floating-point number; `1` and `1.0` are
different documents.  In a canonical document the members of an object stand in the order of their names, each
name once; `text` writes a document without blanks.
-/

namespace Tabula

/-- a document -/
inductive Json where
  | null
  | bool (b : Bool)
  | int (i : Int)
  | float (d : Double)
  | str (s : String)
  | arr (items : List Json)
  | obj (members : List (String × Json))
  deriving Inhabited

namespace Json

/-! ## Equality -/

mutual

/-- equality of documents; floating-point numbers compare by value -/
def same : Json → Json → Bool
  | null, null => true
  | bool a, bool b => a == b
  | int a, int b => a == b
  | float a, float b => a.same b
  | str a, str b => a == b
  | arr a, arr b => sameItems a b
  | obj a, obj b => sameMembers a b
  | _, _ => false

/-- equality of items, one by one -/
def sameItems : List Json → List Json → Bool
  | [], [] => true
  | x :: xs, y :: ys => same x y && sameItems xs ys
  | _, _ => false

/-- equality of members, name and document, one by one -/
def sameMembers : List (String × Json) → List (String × Json) → Bool
  | [], [] => true
  | (k, x) :: xs, (l, y) :: ys => k == l && same x y && sameMembers xs ys
  | _, _ => false

end

/-! ## Members -/

/-- the object with the given members, a later one over an earlier one of the same name -/
def ofMembers (members : List (String × Json)) : Json := obj (Keyed.ofList members)

mutual

/-- every object's members in the order of their names, of equal names the last -/
def canonical : Json → Json
  | arr items => arr (canonicalItems items)
  | obj members => ofMembers (canonicalMembers members)
  | j => j

def canonicalItems : List Json → List Json
  | [] => []
  | x :: xs => canonical x :: canonicalItems xs

def canonicalMembers : List (String × Json) → List (String × Json)
  | [] => []
  | (k, x) :: xs => (k, canonical x) :: canonicalMembers xs

end

/-! ## Text -/

/-- one character inside a string -/
def escapedChar (c : Char) : List Char :=
  if c = '"' then ['\\', '"']
  else if c = '\\' then ['\\', '\\']
  else if c = '\x08' then ['\\', 'b']
  else if c = '\x0C' then ['\\', 'f']
  else if c = '\n' then ['\\', 'n']
  else if c = '\r' then ['\\', 'r']
  else if c = '\t' then ['\\', 't']
  else if c.toNat < 0x20 then ['\\', 'u', '0', '0', Text.hexDigit (c.toNat / 16), Text.hexDigit (c.toNat % 16)]
  else [c]

/-- a string in quotes -/
def quoted (s : String) : String := String.ofList ('"' :: (s.toList.flatMap escapedChar ++ ['"']))

mutual

/-- a document without blanks -/
def text : Json → String
  | null => "null"
  | bool b => if b then "true" else "false"
  | int i => toString i
  | float d => FloatStyle.document.text d
  | str s => quoted s
  | arr items => "[" ++ ",".intercalate (itemTexts items) ++ "]"
  | obj members => "\x7b" ++ ",".intercalate (memberTexts members) ++ "\x7d"

def itemTexts : List Json → List String
  | [] => []
  | x :: xs => text x :: itemTexts xs

def memberTexts : List (String × Json) → List String
  | [] => []
  | (k, x) :: xs => (quoted k ++ ":" ++ text x) :: memberTexts xs

end

/-- a whole 64-bit number -/
def ofInt64 (i : Int64) : Json := int i.toInt

/-- a floating-point number; what is not finite has no document but `null` -/
def ofDouble (d : Double) : Json := if d.isFinite then float d else null

end Json

end Tabula
