import Tabula.Sql.Quoted
/-!
# Tokens

Statement text as the database reads it.  The scanner looks at one character at a time and keeps what it is in the
middle of: `Pending`.  A quote inside a quoted token is written twice, a backslash means nothing there, a literal goes
on after blanks with a line break among them, and a sign takes in every sign character that follows.  Comments,
dollar quotes and prefixed literals are not read.
-/

namespace Tabula.Sql

/-- a piece of statement text -/
inductive Token where
  /-- a keyword or the name of a function -/
  | word (text : String)
  | identifier (name : String)
  | literal (text : String)
  /-- the place of the `n`-th parameter -/
  | parameter (n : Nat)
  | number (digits : String)
  | sign (text : String)
  | opening | closing | comma
  deriving DecidableEq

/-! ## Characters -/

/-- what a character can begin -/
inductive CharClass where
  | blank | newline
  /-- the quotes of identifiers and of literals -/
  | nameQuote | textQuote
  | opening | closing | comma
  | dollar | digit
  /-- letters, the underscore and all beyond ASCII -/
  | letter
  | sign
  | other
  deriving DecidableEq

/-- the characters with a class of their own -/
def charClasses : List (Char × CharClass) :=
  [(' ', .blank), ('\t', .blank), ('\x0b', .blank), ('\x0c', .blank), ('\n', .newline), ('\r', .newline),
    ('"', .nameQuote), ('\'', .textQuote), ('(', .opening), (')', .closing), (',', .comma), ('$', .dollar),
    ('+', .sign), ('-', .sign), ('*', .sign), ('/', .sign), ('<', .sign), ('>', .sign), ('=', .sign), ('~', .sign),
    ('!', .sign), ('@', .sign), ('#', .sign), ('%', .sign), ('^', .sign), ('&', .sign), ('|', .sign), ('`', .sign),
    ('?', .sign)]

def isLetter (c : Char) : Bool := c.isAlpha || c == '_' || 128 ≤ c.toNat

def charClass (c : Char) : CharClass :=
  if c.isDigit then .digit else if isLetter c then .letter else (charClasses.lookup c).getD .other

def isBlank (c : Char) : Bool := charClass c = .blank || charClass c = .newline

/-- whether a run of sign characters begins a comment somewhere -/
def opensComment : List Char → Bool
  | '-' :: '-' :: _ => true
  | '/' :: '*' :: _ => true
  | _ :: rest => opensComment rest
  | [] => false

/-! ## The scanner -/

/-- what the scanner is in the middle of -/
inductive Pending where
  | nothing
  /-- inside quotes -/
  | quoted (quote : Char) (body : List Char)
  /-- after a quote that may have ended a token -/
  | closed (quote : Char) (body : List Char)
  /-- in the blanks after a literal; whether there was a line break -/
  | spaced (body : List Char) (newline : Bool)
  | word (text : List Char)
  | number (digits : List Char)
  | parameter (digits : List Char)
  | sign (text : List Char)
  deriving DecidableEq

/-- the token of a quoted text -/
def quotedToken (quote : Char) (body : List Char) : Token :=
  if quote = '"' then .identifier (String.ofList body) else .literal (String.ofList body)

namespace Pending

/-- the tokens that are complete if the text ends here -/
def tokens? : Pending → Option (List Token)
  | nothing => some []
  | quoted _ _ => none
  | closed q body => some [quotedToken q body]
  | spaced body _ => some [.literal (String.ofList body)]
  | word text => some [.word (String.ofList text)]
  | number digits => some [.number (String.ofList digits)]
  | parameter digits => if digits.isEmpty then none else some [.parameter (Nat.ofDigitChars 10 digits 0)]
  | sign text => if opensComment text then none else some [.sign (String.ofList text)]

/-- the scanner at the first character of a token or at a blank -/
def start (c : Char) : Option (List Token × Pending) :=
  match charClass c with
  | .blank | .newline => some ([], nothing)
  | .nameQuote | .textQuote => some ([], quoted c [])
  | .opening => some ([.opening], nothing)
  | .closing => some ([.closing], nothing)
  | .comma => some ([.comma], nothing)
  | .dollar => some ([], parameter [])
  | .digit => some ([], number [c])
  | .letter => some ([], word [c])
  | .sign => some ([], sign [c])
  | .other => none

/-- ends what is pending and starts afresh -/
def renew (p : Pending) (c : Char) : Option (List Token × Pending) := do
  let done ← p.tokens?
  let (more, q) ← start c
  return (done ++ more, q)

/-- one character -/
def step (p : Pending) (c : Char) : Option (List Token × Pending) :=
  match p with
  | nothing => start c
  | quoted q body => some ([], if c = q then closed q body else quoted q (body ++ [c]))
  | closed q body =>
    if c = q then some ([], quoted q (body ++ [c]))
    else if q = '\'' && isBlank c then some ([], spaced body (charClass c = .newline))
    else renew p c
  | spaced body newline =>
    if isBlank c then some ([], spaced body (newline || charClass c = .newline))
    else if newline && c = '\'' then some ([], quoted c body)
    else renew p c
  | word text =>
    match charClass c with
    | .letter | .digit | .dollar => some ([], word (text ++ [c]))
    | .nameQuote | .textQuote => none
    | _ => renew p c
  | number digits =>
    match charClass c with
    | .digit => some ([], number (digits ++ [c]))
    | .letter | .dollar => none
    | _ => renew p c
  | parameter digits =>
    match charClass c with
    | .digit => some ([], parameter (digits ++ [c]))
    | .letter | .dollar => none
    | _ => renew p c
  | sign text => if charClass c = .sign then some ([], sign (text ++ [c])) else renew p c

/-- all characters, one after the other -/
def run (p : Pending) : List Char → Option (List Token × Pending)
  | [] => some ([], p)
  | c :: rest => do
    let (done, q) ← p.step c
    let (more, r) ← run q rest
    return (done ++ more, r)

theorem run_append (p : Pending) (s t : List Char) :
    p.run (s ++ t) = (p.run s).bind fun r => (r.2.run t).map fun r' => (r.1 ++ r'.1, r'.2) := by
  induction s generalizing p with
  | nil =>
    cases h : p.run t <;> simp [run, h]
  | cons c s ih =>
    simp only [List.cons_append, run]
    cases p.step c with
    | none => rfl
    | some r =>
      simp only [Option.bind_eq_bind, Option.bind_some, ih]
      cases hs : r.2.run s with
      | none => rfl
      | some r' => cases ht : r'.2.run t <;> simp [ht]

/-- the tokens of a text that begins in the middle of `p` -/
def finish (p : Pending) (s : List Char) : Option (List Token) := do
  let (done, q) ← p.run s
  let rest ← q.tokens?
  return done ++ rest

theorem finish_append {p q : Pending} {s : List Char} {done : List Token} (h : p.run s = some (done, q))
    (t : List Char) : p.finish (s ++ t) = (q.finish t).map (done ++ ·) := by
  simp only [finish, run_append, h, Option.bind_some]
  cases hq : q.run t with
  | none => rfl
  | some r => cases hr : r.2.tokens? <;> simp [hr]

end Pending

/-- the tokens of a text; none if it cannot be read -/
def scan (text : String) : Option (List Token) := Pending.nothing.finish text.toList

example : scan "\"a\"\"b\"->'it''s' <> $12" = some [.identifier "a\"b", .sign "->", .literal "it's", .sign "<>",
    .parameter 12] := by decide +kernel

end Tabula.Sql
