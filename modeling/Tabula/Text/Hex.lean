/-!
# Hexadecimal text

Bytes as pairs of lower-case hexadecimal digits, and back.
-/

namespace Tabula

/-- a string of raw bytes -/
abbrev Bytes := List UInt8

namespace Text

/-- the hexadecimal digit of a number below 16 -/
def hexDigit (n : Nat) : Char :=
  if n < 10 then Char.ofNat ('0'.toNat + n) else Char.ofNat ('a'.toNat + (n - 10))

/-- the number that a hexadecimal digit of either case stands for -/
def hexValue? (c : Char) : Option Nat :=
  if '0' ≤ c ∧ c ≤ '9' then some (c.toNat - '0'.toNat)
  else if 'a' ≤ c ∧ c ≤ 'f' then some (c.toNat - 'a'.toNat + 10)
  else if 'A' ≤ c ∧ c ≤ 'F' then some (c.toNat - 'A'.toNat + 10)
  else none

/-- the two digits of a byte -/
def hexByte (b : UInt8) : List Char := [hexDigit (b.toNat / 16), hexDigit (b.toNat % 16)]

/-- bytes as hexadecimal digits, two for each -/
def hexOfBytes (b : Bytes) : String := String.ofList (b.flatMap hexByte)

/-- reads pairs of hexadecimal digits -/
def bytesOfHex? : List Char → Option Bytes
  | [] => some []
  | [_] => none
  | a :: b :: rest => do
    let hi ← hexValue? a
    let lo ← hexValue? b
    return UInt8.ofNat (hi * 16 + lo) :: (← bytesOfHex? rest)

/-- the number that a text of hexadecimal digits stands for -/
def natOfHex? (s : List Char) : Option Nat :=
  if s.isEmpty then none else s.foldlM (fun n c => (hexValue? c).map (n * 16 + ·)) 0

/-- `n` in hexadecimal, with no leading zero -/
def hexOfNat (n : Nat) : String := String.ofList (Nat.toDigits 16 n)

/-- `n` in hexadecimal, filled up with zeros to `width` digits -/
def hexPadded (width n : Nat) : String :=
  let digits := Nat.toDigits 16 n
  String.ofList (List.replicate (width - digits.length) '0' ++ digits)

/-- the bytes of a text in UTF-8 -/
def utf8 (s : String) : Bytes := s.toUTF8.toList

/-- the text whose UTF-8 form is `b`, if there is one -/
def ofUtf8? (b : Bytes) : Option String := String.fromUTF8? ⟨b.toArray⟩

end Text

end Tabula
