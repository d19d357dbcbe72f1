import Tabula.Proofs.Sql.Written
import Tabula.Filter.Path
import Mathlib.Data.List.DropRight
/-!
# Reading a text from its front

`next?` reads one token and leaves the text behind it, as the lexer of the database does, with whatever follows.
Blanks and comments to the end of a line can stand before a token; a literal goes on behind them if a line ends among
them and a quote comes next.  Block comments, dollar quotes, prefixed literals and numbers with a fraction are not
read.  What the database asks of a name once it is read (that it is not empty, how many bytes it keeps) is no part of
this.
-/

namespace Tabula.Sql

/-! ## Between tokens -/

/-- the text behind blanks and comments, and whether a line ended among them -/
def skipBlanks (comment newline : Bool) : List Char → Bool × List Char
  | [] => (newline, [])
  | c :: rest =>
    if charClass c = .newline then skipBlanks false true rest
    else if comment || charClass c = .blank then skipBlanks comment newline rest
    else match c, rest with
      | '-', '-' :: rest => skipBlanks true newline rest
      | _, _ => (newline, c :: rest)

/-- the text behind the blanks and comments at the front -/
def afterBlanks (text : List Char) : List Char := (skipBlanks false false text).2

/-- the text behind a quote that goes on a literal -/
def resumed? (text : List Char) : Option (List Char) :=
  match skipBlanks false false text with
  | (true, '\'' :: rest) => some rest
  | _ => none

theorem length_skipBlanks (comment newline : Bool) (text : List Char) :
    (skipBlanks comment newline text).2.length ≤ text.length := by
  fun_induction skipBlanks comment newline text <;> simp_all <;> omega

theorem length_resumed {text rest : List Char} (h : resumed? text = some rest) : rest.length < text.length := by
  have shorter := length_skipBlanks false false text
  unfold resumed? at h
  split at h
  · next found =>
    rw [found] at shorter
    cases h
    exact shorter
  · cases h

/-! ## One token -/

/-- a text up to the quote that ends it, every doubled quote once, and the text behind -/
def quoted? (quote : Char) : List Char → Option (List Char × List Char)
  | [] => none
  | [c] => if c = quote then some ([], []) else none
  | c :: d :: rest =>
    if c ≠ quote then (quoted? quote (d :: rest)).map fun r => (c :: r.1, r.2)
    else if d = quote then (quoted? quote rest).map fun r => (quote :: r.1, r.2)
    else some ([], d :: rest)

theorem length_quoted {quote : Char} {text body rest : List Char} (h : quoted? quote text = some (body, rest)) :
    rest.length < text.length := by
  fun_induction quoted? quote text generalizing body with
  | case1 => cases h
  | case2 =>
    cases h
    simp
  | case3 => cases h
  | case4 c d rest' hc ih =>
    obtain ⟨r, hr, rfl, rfl⟩ := by simpa using h
    have shorter := ih hr
    simp only [List.length_cons] at shorter ⊢
    omega
  | case5 c rest' hc ih =>
    obtain ⟨r, hr, rfl, rfl⟩ := by simpa using h
    have shorter := ih hr
    simp only [List.length_cons]
    omega
  | case6 c d rest' hc hd =>
    cases h
    simp

/-- a literal behind its first quote -/
def literal? (text : List Char) : Option (List Char × List Char) :=
  match _inside : quoted? '\'' text with
  | none => none
  | some (body, rest) =>
    match _more : resumed? rest with
    | none => some (body, rest)
    | some rest => (literal? rest).map fun r => (body ++ r.1, r.2)
termination_by text.length
decreasing_by
  have := length_quoted _inside
  have := length_resumed _more
  omega

/-- signs up to a comment -/
def beforeComment : List Char → List Char
  | [] => []
  | c :: rest => if [['-', '-'], ['/', '*']].any (·.isPrefixOf (c :: rest)) then [] else c :: beforeComment rest

/-- the operator at the front of a run of signs: plus and minus can end it if one of some signs is in it -/
def operatorOf (signs : List Char) : List Char :=
  match beforeComment signs with
  | [] => []
  | c :: rest =>
    if (c :: rest).any (['~', '!', '@', '#', '%', '^', '&', '|', '`', '?'].contains ·) then c :: rest
    else c :: rest.rdropWhile (['+', '-'].contains ·)

/-- whether a text goes on a number in front of it -/
def extendsNumber (text : List Char) : Bool := text.head?.any fun c => c.isDigit || isLetter c || c == '.'

/-- the token that begins with the first of these characters, and the text behind it -/
def token? (c : Char) (rest : List Char) : Option (Token × List Char) :=
  match charClass c with
  | .nameQuote => (quoted? '"' rest).map fun r => (.identifier (String.ofList r.1), r.2)
  | .textQuote => (literal? rest).map fun r => (.literal (String.ofList r.1), r.2)
  | .opening => some (.opening, rest)
  | .closing => some (.closing, rest)
  | .comma => some (.comma, rest)
  | .dollar =>
    let digits := rest.takeWhile Char.isDigit
    let behind := rest.dropWhile Char.isDigit
    if digits.isEmpty || extendsNumber behind then none
    else some (.parameter (Nat.ofDigitChars 10 digits 0), behind)
  | .digit =>
    let behind := rest.dropWhile Char.isDigit
    if extendsNumber behind then none
    else some (.number (String.ofList (c :: rest.takeWhile Char.isDigit)), behind)
  | .letter =>
    let inWord := fun c => isLetter c || c.isDigit || c == '$'
    let behind := rest.dropWhile inWord
    -- a word in front of a quote can be the prefix of a literal
    if behind.head?.any fun c => c == '"' || c == '\'' then none
    else some (.word (String.ofList (c :: rest.takeWhile inWord)), behind)
  | .sign =>
    let operator := operatorOf (c :: rest.takeWhile (charClass · = .sign))
    if operator.isEmpty then none else some (.sign (String.ofList operator), rest.drop (operator.length - 1))
  | .blank | .newline | .other => none

/-- the first token of a text, and the text behind it -/
def next? (text : List Char) : Option (Token × List Char) :=
  match afterBlanks text with
  | [] => none
  | c :: rest => token? c rest

/-- reading tokens one after the other, up to the text behind the last -/
inductive Reads : List Char → List Token → List Char → Prop where
  | none (text : List Char) : Reads text [] text
  | token {text rest behind : List Char} {t : Token} {ts : List Token} (first : next? text = some (t, rest))
    (more : Reads rest ts behind) : Reads text (t :: ts) behind

/-! ## What is quoted -/

/-- a text that goes on neither a literal nor a number in front of it -/
structure Apart (rest : List Char) : Prop where
  literal : (afterBlanks rest).head? ≠ some '\''
  number : extendsNumber rest = false

end Tabula.Sql
