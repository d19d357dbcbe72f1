/-!
# Match patterns

In a pattern `%` stands for any text and `_` for any character; a backslash takes the meaning away.
-/

namespace Tabula.Sql

/-- the characters with a meaning of their own in a pattern -/
def isPatternMark (c : Char) : Bool := c == '\\' || c == '%' || c == '_'

/-- one character as a pattern that matches just it -/
def patternChar (c : Char) : List Char := if isPatternMark c then ['\\', c] else [c]

/-- the pattern that matches `s` and nothing else -/
def patternOf (s : String) : String := String.ofList (s.toList.flatMap patternChar)

end Tabula.Sql
