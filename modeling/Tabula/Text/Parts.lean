/-!
# Parts of a text

Splitting a text at a separator.
-/

namespace Tabula.Text

/-- the parts of a text between the given separator, one more than it has separators -/
def parts (separator : Char) : List Char → List (List Char)
  | [] => [[]]
  | c :: s =>
    if c = separator then [] :: parts separator s
    else match parts separator s with
      | part :: rest => (c :: part) :: rest
      | [] => [[c]]

end Tabula.Text
