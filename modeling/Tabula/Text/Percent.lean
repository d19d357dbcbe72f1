import Tabula.Text.Hex
/-!
# Percent escapes

Bytes written as a percent sign and two hexadecimal digits, and the text of bytes that need not be UTF-8.
-/

namespace Tabula.Text

/-- the number a byte stands for as a hexadecimal digit -/
def hexOfByte? (b : UInt8) : Option Nat := hexValue? (Char.ofNat b.toNat)

/-- bytes with their escapes taken out; a percent sign without two digits behind it stands for itself -/
def percentDecoded : Bytes → Bytes
  | [] => []
  | b :: rest =>
    match b, rest with
    | 0x25, h :: l :: rest' =>
      match hexOfByte? h, hexOfByte? l with
      | some hi, some lo => UInt8.ofNat (hi * 16 + lo) :: percentDecoded rest'
      | _, _ => 0x25 :: percentDecoded (h :: l :: rest')
    | b, rest => b :: percentDecoded rest

/-- a byte as an escape -/
def percentByte (b : UInt8) : List Char := '%' :: (hexByte b).map Char.toUpper

/-- a text with the characters that `escapes` picks, and all beyond ASCII, as escapes -/
def percentEncoded (escapes : Char → Bool) (s : String) : String :=
  String.ofList (s.toList.flatMap fun c =>
    if escapes c || 0x80 ≤ c.toNat then (utf8 (String.singleton c)).flatMap percentByte else [c])

/-! ## Bytes that need not be UTF-8 -/

/-- a character of which some bytes are read: the bounds of the next byte, how many are missing, and the bits so
far -/
structure PartialChar where
  low : Nat
  high : Nat
  missing : Nat
  bits : Nat

/-- the character put in place of bytes that are no character -/
def replacement : Char := '\uFFFD'

/-- the first byte of a character -/
def beginChar (b : UInt8) : List Char × Option PartialChar :=
  let n := b.toNat
  if n < 0x80 then ([Char.ofNat n], none)
  else if 0xC2 ≤ n && n ≤ 0xDF then ([], some ⟨0x80, 0xBF, 1, n - 0xC0⟩)
  else if 0xE0 ≤ n && n ≤ 0xEF then
    ([], some ⟨if n = 0xE0 then 0xA0 else 0x80, if n = 0xED then 0x9F else 0xBF, 2, n - 0xE0⟩)
  else if 0xF0 ≤ n && n ≤ 0xF4 then
    ([], some ⟨if n = 0xF0 then 0x90 else 0x80, if n = 0xF4 then 0x8F else 0xBF, 3, n - 0xF0⟩)
  else ([replacement], none)

/-- one byte more; a byte that cannot go on with a character ends it and begins another -/
def nextByte (p : Option PartialChar) (b : UInt8) : List Char × Option PartialChar :=
  match p with
  | none => beginChar b
  | some p =>
    let n := b.toNat
    if p.low ≤ n && n ≤ p.high then
      let bits := p.bits * 64 + (n - 0x80)
      if p.missing = 1 then ([Char.ofNat bits], none) else ([], some ⟨0x80, 0xBF, p.missing - 1, bits⟩)
    else
      let (out, p) := beginChar b
      (replacement :: out, p)

/-- the characters of bytes, after a part of one -/
def readableFrom (p : Option PartialChar) : Bytes → List Char
  | [] => if p.isSome then [replacement] else []
  | b :: rest =>
    let (out, p) := nextByte p b
    out ++ readableFrom p rest

/-- the text of bytes, with a replacement for every stretch that is no character -/
def readable (b : Bytes) : String := String.ofList (readableFrom none b)

end Tabula.Text
