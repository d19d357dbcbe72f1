/-!
# Letter case

Case of ASCII letters only: every other character passes unchanged.  `snakeCase` names a table
after a model.
-/

namespace Tabula.Text

/-- `s` with its ASCII capitals lowered -/
def lowered (s : String) : String := String.ofList (s.toList.map Char.toLower)

/-- `s` with its ASCII small letters raised -/
def raised (s : String) : String := String.ofList (s.toList.map Char.toUpper)

/-- whether a word starts at a capital between `before` and `after`: after a small letter or a digit, or
when a small letter follows, but never after an underscore -/
def startsWord (before : Char) (after : Option Char) : Bool :=
  before != '_' && (before.isLower || before.isDigit || after.any Char.isLower)

/-- the characters after `before`, lowered, with an underscore wherever a word starts -/
def snakeAfter (before : Char) : List Char → List Char
  | [] => []
  | c :: rest =>
    let tail := c.toLower :: snakeAfter c rest
    if c.isUpper && startsWord before rest.head? then '_' :: tail else tail

/-- `CamelCase` as `snake_case`; a run of capitals stays one word -/
def snakeCase (s : String) : String :=
  match s.toList with
  | [] => ""
  | c :: rest => String.ofList (c.toLower :: snakeAfter c rest)

/-- the text that folding case makes of one character, as far as the result can be ASCII: the capitals, the
Kelvin sign and the dotted capital I; every other character stays what it is -/
def folded (c : Char) : List Char :=
  if c = '\u212A' then ['k'] else if c = '\u0130' then ['i', '\u0307'] else [c.toLower]

/-- `s` with case folded, fit for comparison with ASCII words -/
def foldCase (s : String) : String := String.ofList (s.toList.flatMap folded)

end Tabula.Text
