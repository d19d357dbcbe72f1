import Tabula.Text.Graphic
import Tabula.Text.Hex
/-!
# Inspection text

The text that shows a value to a programmer: strings in quotes with escapes, records with their fields named.
-/

namespace Tabula.Text

/-- one character inside quotes: escapes for the quote, the backslash and the control characters that have one,
the code point in hexadecimal for all else that does not show -/
def shownChar (c : Char) : String :=
  if c = '"' then "\\\""
  else if c = '\\' then "\\\\"
  else if c = '\n' then "\\n"
  else if c = '\r' then "\\r"
  else if c = '\t' then "\\t"
  else if c = '\x00' then "\\0"
  else if isGraphic c then String.singleton c
  else "\\u\x7b" ++ hexOfNat c.toNat ++ "\x7d"

/-- a string in quotes -/
def shown (s : String) : String := "\"" ++ String.join (s.toList.map shownChar) ++ "\""

/-- a list of shown values in brackets -/
def shownList (items : List String) : String := "[" ++ ", ".intercalate items ++ "]"

/-- a constructor applied to shown values -/
def shownCall (name : String) (args : List String) : String := name ++ "(" ++ ", ".intercalate args ++ ")"

/-- a record with its fields named -/
def shownRecord (name : String) (fields : List (String × String)) : String :=
  name ++ " \x7b " ++ ", ".intercalate (fields.map fun f => f.1 ++ ": " ++ f.2) ++ " \x7d"

/-- a record with some of its fields named -/
def shownPartly (name : String) (fields : List (String × String)) : String :=
  name ++ " \x7b " ++ String.join (fields.map fun f => f.1 ++ ": " ++ f.2 ++ ", ") ++ ".. \x7d"

/-- a map from shown keys to shown values -/
def shownMap (entries : List (String × String)) : String :=
  "\x7b" ++ ", ".intercalate (entries.map fun e => e.1 ++ ": " ++ e.2) ++ "\x7d"

/-- a value that may be missing -/
def shownOption : Option String → String
  | some s => shownCall "Some" [s]
  | none => "None"

/-- a truth value -/
def shownBool (b : Bool) : String := if b then "true" else "false"

end Tabula.Text
