/-!
# Quoted names and literals

A quoted token runs from its quote character to the next one that stands alone; a quote inside it is written
twice.  `identifier` and `literal` are the two tokens of the statement language that carry text of the
caller.
-/

namespace Tabula.Sql

/-- every occurrence of `quote` written twice, all else once -/
def doubled (quote : Char) : List Char → List Char
  | [] => []
  | c :: rest => if c = quote then quote :: quote :: doubled quote rest else c :: doubled quote rest

/-- `s` between two quote characters, the quotes inside it doubled -/
def enclosed (quote : Char) (s : String) : String :=
  String.ofList (quote :: (doubled quote s.toList ++ [quote]))

/-- a name as a quoted identifier -/
def identifier (name : String) : String := enclosed '"' name

/-- a text as a quoted literal -/
def literal (text : String) : String := enclosed '\'' text

theorem doubled_append (quote : Char) (s t : List Char) :
    doubled quote (s ++ t) = doubled quote s ++ doubled quote t := by
  induction s with
  | nil => rfl
  | cons c rest ih => by_cases h : c = quote <;> simp [doubled, h, ih]

end Tabula.Sql
