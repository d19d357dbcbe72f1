/-!
# Whole numbers in decimal digits

Readers for numbers written in decimal digits, and numbers written with leading zeros.
-/

namespace Tabula.Text

/-- the number that a run of decimal digits stands for -/
def natOfDigits (s : List Char) : Nat := s.foldl (fun n c => n * 10 + (c.toNat - '0'.toNat)) 0

/-- the leading decimal digits and what follows them -/
def spanDigits (s : List Char) : List Char × List Char := s.span Char.isDigit

/-- a text that consists of decimal digits and has at least one -/
def natOfText? (s : List Char) : Option Nat :=
  if s.isEmpty || !s.all Char.isDigit then none else some (natOfDigits s)

/-- a number with an optional sign in front of at least one digit -/
def intOfText? : List Char → Option Int
  | '-' :: s => (natOfText? s).map fun n => -(n : Int)
  | '+' :: s => (natOfText? s).map Int.ofNat
  | s => (natOfText? s).map Int.ofNat

/-- whether a whole number fits into a signed word of `bits` bits -/
def fitsSigned (bits : Nat) (i : Int) : Bool := -(Nat.pow 2 (bits - 1) : Int) ≤ i && i < (Nat.pow 2 (bits - 1) : Int)

/-- a signed 64-bit number read from text; a number outside that range is refused -/
def int64OfText? (s : List Char) : Option Int64 := do
  let i ← intOfText? s
  if fitsSigned 64 i then some (Int64.ofInt i) else none

/-- `n` with zeros in front up to `width` digits -/
def padded (width n : Nat) : String :=
  let digits := (toString n).toList
  String.ofList (List.replicate (width - digits.length) '0' ++ digits)

end Tabula.Text
