import Tabula.Text.Hex
/-!
# Universally unique identifiers

Sixteen bytes, written as 32 hexadecimal digits in groups of 8, 4, 4, 4 and 12.
-/

namespace Tabula

/-- a 128-bit identifier -/
structure Uuid where
  bytes : Vector UInt8 16
  deriving DecidableEq

namespace Uuid

/-- the identifier with the given bytes, if there are sixteen -/
def ofBytes? (b : Bytes) : Option Uuid :=
  if h : b.toArray.size = 16 then some ⟨⟨b.toArray, h⟩⟩ else none

def toBytes (u : Uuid) : Bytes := u.bytes.toList

/-- the digits in groups, joined by hyphens -/
def text (u : Uuid) : String :=
  let digits := u.toBytes.flatMap Text.hexByte
  let group (a n : Nat) : String := String.ofList ((digits.drop a).take n)
  "-".intercalate [group 0 8, group 8 4, group 12 4, group 16 4, group 20 12]

/-- the digits of the hyphenated form, if the hyphens stand where they should -/
def ungrouped? (s : List Char) : Option (List Char) :=
  if s.length = 36 && [8, 13, 18, 23].all (fun i => s[i]? == some '-') then
    some (s.take 8 ++ (s.drop 9).take 4 ++ (s.drop 14).take 4 ++ (s.drop 19).take 4 ++ s.drop 24)
  else none

/-- reads 32 digits, the hyphenated form, or that form in braces or after `urn:uuid:` -/
def ofText? (s : List Char) : Option Uuid :=
  let digits :=
    if s.length = 32 then some s
    else if s.length = 38 && s.head? == some '\x7b' && s.getLast? == some '\x7d' then ungrouped? (s.drop 1).dropLast
    else if s.length = 45 && s.take 9 == "urn:uuid:".toList then ungrouped? (s.drop 9)
    else ungrouped? s
  digits.bind fun d => (Text.bytesOfHex? d).bind ofBytes?

/-- the identifier made of the `n`-th draw from a source of sixteen-byte numbers: version 4, variant 1 -/
def random (n : Nat) : Uuid :=
  ⟨Vector.ofFn fun i =>
    let b := UInt8.ofNat (n / Nat.pow 256 (15 - i.val))
    if i.val = 6 then (b &&& 0x0F) ||| 0x40 else if i.val = 8 then (b &&& 0x3F) ||| 0x80 else b⟩

end Uuid

end Tabula
