import Tabula.Json.Basic
/-!
# Reading documents

A reader takes the text that is left and gives what it read together with the rest.  Documents nest at most
127 deep.  Whole numbers of up to 64 bits stay exact; any other number is its first digits, as many as 64 bits
hold, scaled by a power of ten with one rounding.
-/

namespace Tabula.Json.Reader

/-- what a reader gives: a result and the text that is left -/
abbrev Result (α : Type) := Option (α × List Char)

def isBlank (c : Char) : Bool := c == ' ' || c == '\n' || c == '\t' || c == '\r'

def skipBlanks (s : List Char) : List Char := s.dropWhile isBlank

/-- the text after the given characters -/
def expect? : List Char → List Char → Option (List Char)
  | [], s => some s
  | c :: cs, d :: s => if c = d then expect? cs s else none
  | _ :: _, [] => none

/-! ## Strings -/

/-- four hexadecimal digits -/
def hex4? (a b c d : Char) : Option Nat := Text.natOfHex? [a, b, c, d]

/-- the character of an escape of one letter -/
def escapeOf? : Char → Option Char
  | '"' => some '"'
  | '\\' => some '\\'
  | '/' => some '/'
  | 'b' => some '\x08'
  | 'f' => some '\x0C'
  | 'n' => some '\n'
  | 'r' => some '\r'
  | 't' => some '\t'
  | _ => none

/-- a string after its opening quote; two halves of a surrogate pair make one character, and half a pair is
refused -/
def string (done : List Char) : List Char → Result String
  | [] => none
  | '"' :: s => some (String.ofList done.reverse, s)
  | '\\' :: 'u' :: a :: b :: c :: d :: s =>
    match hex4? a b c d with
    | none => none
    | some hi =>
      if 0xD800 ≤ hi && hi < 0xDC00 then
        match s with
        | '\\' :: 'u' :: e :: f :: g :: h :: s' =>
          match hex4? e f g h with
          | none => none
          | some lo =>
            if 0xDC00 ≤ lo && lo < 0xE000 then
              string (Char.ofNat (0x10000 + (hi - 0xD800) * 1024 + (lo - 0xDC00)) :: done) s'
            else none
        | _ => none
      else if 0xDC00 ≤ hi && hi < 0xE000 then none
      else string (Char.ofNat hi :: done) s
  | '\\' :: e :: s =>
    match escapeOf? e with
    | some c => string (c :: done) s
    | none => none
  | c :: s => if c.toNat < 0x20 || c = '\\' then none else string (c :: done) s

/-! ## Numbers -/

/-- `significand · 10 ^ exponent` by one rounded multiplication or division at a time; too large a result is
refused -/
def scaled? : Nat → Rat → Int → Option Rat
  | 0, _, _ => some 0
  | fuel + 1, f, e =>
    let power (n : Nat) : Rat := (Double.ofRat ((Nat.pow 10 n : Nat) : Rat)).toRat
    if e.natAbs ≤ 308 then
      let d := Double.ofRat (if 0 ≤ e then f * power e.toNat else f / power (-e).toNat)
      if d.isFinite then some d.toRat else none
    else if f = 0 then some 0
    else if 0 ≤ e then none
    else scaled? fuel (Double.ofRat (f / power 308)).toRat (e + 308)

/-- the floating-point number of the parts read -/
def float? (negative : Bool) (significand : Nat) (e : Int) : Option Double :=
  let start := (Double.ofRatio false significand 1).toRat
  (scaled? 8 start (max e (-2000))).map fun q => Double.ofRatio negative q.num.natAbs q.den

/-- the largest number of 64 bits -/
def word64 : Nat := Nat.pow 2 64 - 1

/-- takes digits into the significand while it has room; gives it, the count of digits taken, and the rest -/
def take (significand taken : Nat) : List Char → Nat × Nat × List Char
  | [] => (significand, taken, [])
  | c :: s =>
    let next := significand * 10 + (c.toNat - '0'.toNat)
    if c.isDigit && next ≤ word64 then take next (taken + 1) s else (significand, taken, c :: s)

/-- the exponent after `e`: a sign and at least one digit -/
def exponent (s : List Char) : Result Int :=
  let (negative, s) := Double.spanSign s
  let (digits, rest) := Text.spanDigits s
  if digits.isEmpty then none
  else
    let n : Int := Text.natOfDigits digits
    some (if negative then -n else n, rest)

/-- ends a number with fraction or exponent -/
def finish (negative : Bool) (significand : Nat) (e : Int) (s : List Char) : Option (Json × List Char) := do
  let (power, s) ← (match s with
    | 'e' :: r => exponent r
    | 'E' :: r => exponent r
    | r => some (0, r) : Option (Int × List Char))
  if power.natAbs < Nat.pow 2 31 then
    let d ← float? negative significand (e + power)
    return (float d, s)
  else if 0 < power && significand ≠ 0 then none
  else return (float (Double.ofMagnitude negative 0), s)

/-- a fraction after its point, at `e` places so far -/
def fraction (negative : Bool) (significand : Nat) (e : Int) (s : List Char) : Result Json :=
  let (m, taken, rest) := take significand 0 s
  let rest' := rest.dropWhile Char.isDigit
  if taken = 0 && rest'.length = rest.length then none
  else finish negative m (e - (taken : Int)) rest'

/-- a number after its sign -/
def number (negative : Bool) (s : List Char) : Result Json :=
  let (m, taken, rest) := take 0 0 s
  let dropped := rest.takeWhile Char.isDigit
  let rest := rest.drop dropped.length
  let whole := dropped.isEmpty
  if taken = 0 || (s.head? == some '0' && (1 < taken || !whole)) then none
  else match rest with
    | '.' :: r => fraction negative m dropped.length r
    | 'e' :: _ => finish negative m dropped.length rest
    | 'E' :: _ => finish negative m dropped.length rest
    | _ =>
      if !whole then finish negative m dropped.length rest
      else if !negative then some (int m, rest)
      else if 0 < m && m ≤ Nat.pow 2 63 then some (int (-(m : Int)), rest)
      else some (float (Double.ofRatio true m 1), rest)

/-! ## Values -/

mutual

/-- a document with `depth` levels to spare -/
def value : Nat → Nat → List Char → Result Json
  | 0, _, _ => none
  | fuel + 1, depth, s =>
    match skipBlanks s with
    | 'n' :: r => (expect? "ull".toList r).map (null, ·)
    | 't' :: r => (expect? "rue".toList r).map (bool true, ·)
    | 'f' :: r => (expect? "alse".toList r).map (bool false, ·)
    | '"' :: r => (string [] r).map fun (t, r) => (str t, r)
    | '-' :: r => number true r
    | '[' :: r =>
      if depth ≤ 1 then none else
      match skipBlanks r with
      | ']' :: r => some (arr [], r)
      | r => (items fuel (depth - 1) [] r).map fun (xs, r) => (arr xs, r)
    | '\x7b' :: r =>
      if depth ≤ 1 then none else
      match skipBlanks r with
      | '\x7d' :: r => some (obj [], r)
      | r => (members fuel (depth - 1) [] r).map fun (ms, r) => (obj ms, r)
    | c :: r => if c.isDigit then number false (c :: r) else none
    | [] => none

/-- items up to the closing bracket -/
def items : Nat → Nat → List Json → List Char → Result (List Json)
  | 0, _, _, _ => none
  | fuel + 1, depth, done, s =>
    match value fuel depth s with
    | none => none
    | some (x, r) =>
      match skipBlanks r with
      | ',' :: r => items fuel depth (x :: done) r
      | ']' :: r => some ((x :: done).reverse, r)
      | _ => none

/-- members up to the closing brace -/
def members : Nat → Nat → List (String × Json) → List Char → Result (List (String × Json))
  | 0, _, _, _ => none
  | fuel + 1, depth, done, s =>
    match skipBlanks s with
    | '"' :: r =>
      match string [] r with
      | none => none
      | some (key, r) =>
        match skipBlanks r with
        | ':' :: r =>
          match value fuel depth r with
          | none => none
          | some (x, r) =>
            match skipBlanks r with
            | ',' :: r => members fuel depth ((key, x) :: done) r
            | '\x7d' :: r => some (((key, x) :: done).reverse, r)
            | _ => none
        | _ => none
    | _ => none

end

end Reader

/-- reads a whole text as one document, members in the order written -/
def asWritten? (s : String) : Option Json :=
  let chars := s.toList
  match Reader.value (chars.length + 1) 128 chars with
  | some (j, rest) => if (Reader.skipBlanks rest).isEmpty then some j else none
  | none => none

/-- reads a whole text as one canonical document -/
def ofText? (s : String) : Option Json := (asWritten? s).map canonical

end Tabula.Json
