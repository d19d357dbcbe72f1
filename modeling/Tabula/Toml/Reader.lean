import Tabula.Calendar.Date
import Tabula.Text.Blank
import Tabula.Toml.Basic
/-!
# Reading configuration files

A reader takes the text that is left and gives what it read together with the rest.  `sections?` splits a file
into the part before the first header and the sections below headers; `Toml.document?` builds the document.
Values nest less than eighty deep, and a key has less than eighty parts.
-/

namespace Tabula.Toml.Reader

/-! ## Blanks, comments and line ends -/

def isBlank (c : Char) : Bool := c == ' ' || c == '\t'

def skipBlanks (s : List Char) : List Char := s.dropWhile isBlank

/-- whether a character may stand inside a line: no control character but the tab -/
def isInline (c : Char) : Bool := c == '\t' || (0x20 ≤ c.toNat && c.toNat ≠ 0x7F)

/-- the text after a line end -/
def newline? : List Char → Option (List Char)
  | '\n' :: s => some s
  | '\r' :: '\n' :: s => some s
  | _ => none

/-- the text after the comment that begins here, if one does -/
def skipComment : List Char → List Char
  | '#' :: s => s.dropWhile isInline
  | s => s

/-- the text after the end of a line: blanks, a comment, and a line end or the end of the file -/
def lineEnd? (s : List Char) : Option (List Char) :=
  match skipComment (skipBlanks s) with
  | [] => some []
  | s => newline? s

/-- the text after blanks, comments and line ends -/
def skipSpace : Nat → List Char → List Char
  | 0, s => s
  | fuel + 1, s =>
    let r := skipComment (skipBlanks s)
    match newline? r with
    | some r => skipSpace fuel r
    | none => r

/-- skips blanks, comments and line ends -/
def skipLines (s : List Char) : List Char := skipSpace s.length s

/-! ## Strings -/

/-- the character of an escape of one letter -/
def escapeOf? : Char → Option Char
  | '"' => some '"'
  | '\\' => some '\\'
  | 'b' => some '\x08'
  | 'f' => some '\x0C'
  | 'n' => some '\n'
  | 'r' => some '\r'
  | 't' => some '\t'
  | _ => none

/-- the character with the code point that `width` hexadecimal digits give -/
def codePoint? (width : Nat) (s : List Char) : Option (Char × List Char) := do
  let digits := s.take width
  let n ← Text.natOfHex? digits
  if digits.length = width && (n < 0xD800 || (0xDFFF < n && n < 0x110000)) then
    some (Char.ofNat n, s.drop width)
  else none

/-- an escape after its backslash -/
def escape? : List Char → Option (Char × List Char)
  | 'u' :: s => codePoint? 4 s
  | 'U' :: s => codePoint? 8 s
  | c :: s => (escapeOf? c).map (·, s)
  | [] => none

/-- a string of one line after its opening quote -/
def basic : Nat → List Char → List Char → Option (String × List Char)
  | 0, _, _ => none
  | fuel + 1, done, s =>
    match s with
    | [] => none
    | '"' :: s => some (String.ofList done.reverse, s)
    | '\\' :: s => (escape? s).bind fun (c, s) => basic fuel (c :: done) s
    | c :: s => if isInline c then basic fuel (c :: done) s else none

/-- a string of one line without escapes, after its opening quote -/
def literal (s : List Char) : Option (String × List Char) :=
  let (text, rest) := s.span fun c => isInline c && c != '\''
  match rest with
  | '\'' :: rest => some (String.ofList text, rest)
  | _ => none

/-- ends a string of several lines after `n` quotes in a row: three close it, and up to two before them belong
to it -/
def closing (quote : Char) (done : List Char) (n : Nat) (s : List Char) : Option (String × List Char) :=
  if n ≤ 5 then some (String.ofList (List.replicate (n - 3) quote ++ done).reverse, s) else none

/-- a string of several lines after its opening quotes -/
def basicLines : Nat → List Char → List Char → Option (String × List Char)
  | 0, _, _ => none
  | fuel + 1, done, s =>
    match s with
    | [] => none
    | '"' :: _ =>
      let (quotes, rest) := s.span (· == '"')
      if 3 ≤ quotes.length then closing '"' done quotes.length rest
      else basicLines fuel (quotes ++ done) rest
    | '\\' :: s =>
      match newline? (skipBlanks s) with
      | some r => basicLines fuel done (r.dropWhile fun c => isBlank c || c == '\n' || c == '\r')
      | none => (escape? s).bind fun (c, s) => basicLines fuel (c :: done) s
    | c :: rest =>
      match newline? s with
      | some r => basicLines fuel ('\n' :: done) r
      | none => if isInline c then basicLines fuel (c :: done) rest else none

/-- a string of several lines without escapes, after its opening quotes -/
def literalLines : Nat → List Char → List Char → Option (String × List Char)
  | 0, _, _ => none
  | fuel + 1, done, s =>
    match s with
    | [] => none
    | '\'' :: _ =>
      let (quotes, rest) := s.span (· == '\'')
      if 3 ≤ quotes.length then closing '\'' done quotes.length rest
      else literalLines fuel (quotes ++ done) rest
    | c :: rest =>
      match newline? s with
      | some r => literalLines fuel ('\n' :: done) r
      | none => if isInline c then literalLines fuel (c :: done) rest else none

/-- the text after a line end that directly follows opening quotes -/
def afterOpening (s : List Char) : List Char := (newline? s).getD s

/-- a string of any of the four forms -/
def string? : List Char → Option (String × List Char)
  | '"' :: '"' :: '"' :: s => basicLines (s.length + 1) [] (afterOpening s)
  | '"' :: s => basic (s.length + 1) [] s
  | '\'' :: '\'' :: '\'' :: s => literalLines (s.length + 1) [] (afterOpening s)
  | '\'' :: s => literal s
  | _ => none

/-! ## Keys -/

/-- whether a character may stand in a key without quotes -/
def isBare (c : Char) : Bool := c.isAlphanum || c == '-' || c == '_'

/-- one part of a key -/
def keyPart? (s : List Char) : Option (String × List Char) :=
  match s with
  | '"' :: s => basic (s.length + 1) [] s
  | '\'' :: s => literal s
  | s =>
    let (name, rest) := s.span isBare
    if name.isEmpty then none else some (String.ofList name, rest)

/-- the parts of a key, with blanks around each; `done` holds those read, in reverse -/
def keyParts : Nat → List String → List Char → Option (List String × List Char)
  | 0, _, _ => none
  | fuel + 1, done, s =>
    match keyPart? (skipBlanks s) with
    | none => none
    | some (part, s) =>
      match skipBlanks s with
      | '.' :: s => keyParts fuel (part :: done) s
      | s => some (part :: done, s)

/-- the number of levels from which on nesting is refused -/
def depthLimit : Nat := 80

/-- a key -/
def key? (s : List Char) : Option (Key × List Char) :=
  match keyParts (depthLimit - 1) [] s with
  | some (last :: path, s) => some (⟨path.reverse, last⟩, s)
  | _ => none

/-! ## Dates -/

/-- exactly `width` digits whose number lies in the given bounds -/
def digits? (width low high : Nat) (s : List Char) : Option (Nat × List Char) :=
  let d := s.take width
  let n := Text.natOfDigits d
  if d.length = width && d.all Char.isDigit && low ≤ n && n ≤ high then some (n, s.drop width) else none

/-- the text after one given character -/
def expect? (c : Char) : List Char → Option (List Char)
  | d :: s => if c = d then some s else none
  | [] => none

/-- a day of the calendar -/
def day? (s : List Char) : Option (String × List Char) := do
  let (y, s) ← digits? 4 0 9999 s
  let s ← expect? '-' s
  let (m, s) ← digits? 2 1 12 s
  let s ← expect? '-' s
  let (d, s) ← digits? 2 1 (Civil.monthLength y m) s
  return (Text.padded 4 y ++ "-" ++ Text.padded 2 m ++ "-" ++ Text.padded 2 d, s)

/-- the fraction of a second, without the zeros at its end -/
def fraction? : List Char → Option (String × List Char)
  | '.' :: s =>
    let (ds, rest) := Text.spanDigits s
    let kept := ((ds.take 9).reverse.dropWhile (· == '0')).reverse
    if ds.isEmpty then none
    else some (if kept.isEmpty then "" else "." ++ String.ofList kept, rest)
  | s => some ("", s)

/-- a time of day -/
def time? (s : List Char) : Option (String × List Char) := do
  let (h, s) ← digits? 2 0 23 s
  let s ← expect? ':' s
  let (m, s) ← digits? 2 0 59 s
  let s ← expect? ':' s
  let (sec, s) ← digits? 2 0 60 s
  let (fraction, s) ← fraction? s
  return (Text.padded 2 h ++ ":" ++ Text.padded 2 m ++ ":" ++ Text.padded 2 sec ++ fraction, s)

/-- the distance from universal time, if one is given -/
def zone? : List Char → Option (String × List Char)
  | 'Z' :: s => some ("Z", s)
  | 'z' :: s => some ("Z", s)
  | c :: s => do
    if c = '+' || c = '-' then
      let (h, s) ← digits? 2 0 23 s
      let s ← expect? ':' s
      let (m, s) ← digits? 2 0 59 s
      return (String.singleton c ++ Text.padded 2 h ++ ":" ++ Text.padded 2 m, s)
    else some ("", c :: s)
  | [] => some ("", [])

/-- a day, a time of day, or both with an optional distance from universal time -/
def date? (s : List Char) : Option (String × List Char) :=
  match day? s with
  | none => time? s
  | some (day, rest) =>
    match rest with
    | c :: after =>
      if c = 'T' || c = 't' || c = ' ' then
        match time? after with
        | some (time, rest) => (zone? rest).map fun (zone, rest) => (day ++ "T" ++ time ++ zone, rest)
        | none => some (day, rest)
      else some (day, rest)
    | [] => some (day, rest)

/-! ## Numbers -/

/-- digits of one kind, single underscores between them; the digits alone are given -/
def grouped (isDigit : Char → Bool) : List Char → List Char → Option (List Char × List Char)
  | done, c :: s =>
    if isDigit c then grouped isDigit (c :: done) s
    else if c = '_' then
      match done, s with
      | _ :: _, d :: _ => if isDigit d then grouped isDigit done s else none
      | _, _ => none
    else if done.isEmpty then none else some (done.reverse, c :: s)
  | done, [] => if done.isEmpty then none else some (done.reverse, [])

/-- a whole number of 64 bits -/
def whole? (i : Int) : Option Json := if Text.fitsSigned 64 i then some (.int i) else none

/-- a number with a marked base -/
def based? (base : Nat) (s : List Char) : Option (Json × List Char) := do
  let isDigit (c : Char) : Bool := (Text.hexValue? c).any (· < base)
  let (ds, s) ← grouped isDigit [] s
  let n := ds.foldl (fun n c => n * base + (Text.hexValue? c).getD 0) 0
  return (← whole? n, s)

/-- the digits of a whole number: a leading zero stands alone -/
def wholeDigits? : List Char → Option (List Char × List Char)
  | '0' :: s => some (['0'], s)
  | s => grouped Char.isDigit [] s

/-- the digits after a point, if there is one -/
def pointDigits? : List Char → Option (List Char × List Char)
  | '.' :: s => (grouped Char.isDigit [] s).map fun (ds, s) => ('.' :: ds, s)
  | s => some ([], s)

/-- an exponent, if there is one -/
def exponent? : List Char → Option (List Char × List Char)
  | c :: s =>
    if c = 'e' || c = 'E' then
      let (sign, s) := match s with
        | '+' :: s => ([], s)
        | '-' :: s => (['-'], s)
        | s => ([], s)
      (grouped Char.isDigit [] s).map fun (ds, s) => ('e' :: (sign ++ ds), s)
    else some ([], c :: s)
  | [] => some ([], [])

/-- a number after its sign -/
def unsigned? (negative : Bool) (s : List Char) : Option (Json × List Char) := do
  match s with
  | 'i' :: 'n' :: 'f' :: s => return (.float (Double.infinite negative), s)
  | 'n' :: 'a' :: 'n' :: s => return (.float Double.nan, s)
  | s =>
    let (whole, s) ← wholeDigits? s
    let (point, s) ← pointDigits? s
    let (power, s) ← exponent? s
    if point.isEmpty && power.isEmpty then
      let n : Int := Text.natOfDigits whole
      return (← whole? (if negative then -n else n), s)
    else
      let d ← Double.ofText? ((if negative then ['-'] else []) ++ whole ++ point ++ power)
      if d.isFinite || negative then return (.float d, s) else none

/-- a date or a number -/
def number? (s : List Char) : Option (Json × List Char) :=
  match date? s with
  | some (text, s) => some (dateDocument text, s)
  | none =>
    match s with
    | '+' :: s => unsigned? false s
    | '-' :: s => unsigned? true s
    | '0' :: 'x' :: s => based? 16 s
    | '0' :: 'o' :: s => based? 8 s
    | '0' :: 'b' :: s => based? 2 s
    | s => unsigned? false s

/-! ## Values -/

/-- the text after the given characters -/
def word? : List Char → List Char → Option (List Char)
  | [], s => some s
  | c :: cs, d :: s => if c = d then word? cs s else none
  | _ :: _, [] => none

mutual

/-- a value with `depth` levels to spare -/
def value : Nat → Nat → List Char → Option (Json × List Char)
  | 0, _, _ => none
  | fuel + 1, depth, s =>
    match s with
    | '"' :: _ => (string? s).map fun (t, s) => (.str t, s)
    | '\'' :: _ => (string? s).map fun (t, s) => (.str t, s)
    | 't' :: r => (word? "rue".toList r).map (.bool true, ·)
    | 'f' :: r => (word? "alse".toList r).map (.bool false, ·)
    | '[' :: r =>
      if depth ≤ 1 then none else
      match skipLines r with
      | ']' :: r => some (.arr [], r)
      | r => (items fuel (depth - 1) [] r).map fun (xs, r) => (.arr xs, r)
    | '\x7b' :: r =>
      if depth ≤ 1 then none else
      match skipBlanks r with
      | '\x7d' :: r => some (.obj [], r)
      | r => do
        let (assignments, r) ← pairs fuel (depth - 1) [] r
        let entries ← assignAll assignments []
        return (.obj (members entries), r)
    | _ => number? s

/-- items up to the closing bracket; a comma may stand after the last one -/
def items : Nat → Nat → List Json → List Char → Option (List Json × List Char)
  | 0, _, _, _ => none
  | fuel + 1, depth, done, s =>
    match value fuel depth s with
    | none => none
    | some (x, r) =>
      match skipLines r with
      | ',' :: r =>
        match skipLines r with
        | ']' :: r => some ((x :: done).reverse, r)
        | r => items fuel depth (x :: done) r
      | ']' :: r => some ((x :: done).reverse, r)
      | _ => none

/-- assignments up to the closing brace, all on one line -/
def pairs : Nat → Nat → List Assignment → List Char → Option (List Assignment × List Char)
  | 0, _, _, _ => none
  | fuel + 1, depth, done, s =>
    match key? s with
    | some (key, '=' :: r) =>
      match value fuel depth (skipBlanks r) with
      | none => none
      | some (x, r) =>
        match skipBlanks r with
        | ',' :: r => pairs fuel depth ((key, x) :: done) r
        | '\x7d' :: r => some (((key, x) :: done).reverse, r)
        | _ => none
    | _ => none

end

/-! ## Files -/

/-- an assignment on a line of its own -/
def line? (s : List Char) : Option (Assignment × List Char) :=
  match key? s with
  | some (key, '=' :: r) => do
    let (x, r) ← value (r.length + 1) depthLimit (skipBlanks r)
    return ((key, x), ← lineEnd? r)
  | _ => none

/-- assignments up to the next header or the end of the file -/
def block : Nat → List Assignment → List Char → Option (List Assignment × List Char)
  | 0, _, _ => none
  | fuel + 1, done, s =>
    match skipLines s with
    | [] => some (done.reverse, [])
    | '[' :: r => some (done.reverse, '[' :: r)
    | s => (line? s).bind fun (a, s) => block fuel (a :: done) s

/-- the header that begins here, with the assignments below it -/
def section? (s : List Char) : Option (Section × List Char) :=
  match s with
  | '[' :: '[' :: s => do
    let (key, s) ← key? s
    let s ← expect? ']' s
    let s ← expect? ']' s
    let s ← lineEnd? s
    let (assignments, s) ← block (s.length + 1) [] s
    return (.row key assignments, s)
  | '[' :: s => do
    let (key, s) ← key? s
    let s ← expect? ']' s
    let s ← lineEnd? s
    let (assignments, s) ← block (s.length + 1) [] s
    return (.table key assignments, s)
  | _ => none

/-- the sections from here to the end of the file -/
def sections : Nat → List Section → List Char → Option (List Section)
  | 0, _, _ => none
  | _ + 1, done, [] => some done.reverse
  | fuel + 1, done, s => (section? s).bind fun (x, s) => sections fuel (x :: done) s

/-- the part of a file before the first header, and its sections -/
def file? (s : List Char) : Option (List Assignment × List Section) := do
  let s := match s with
    | '\uFEFF' :: s => s
    | s => s
  let (start, s) ← block (s.length + 1) [] s
  return (start, ← sections (s.length + 1) [] s)

end Reader

/-- reads a configuration file -/
def document? (s : String) : Option Json := do
  let (start, sections) ← Reader.file? s.toList
  let entries ← assignAll start []
  let entries ← sections.foldlM Section.attach entries
  return .obj (members entries)

end Tabula.Toml
