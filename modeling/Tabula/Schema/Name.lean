import Tabula.Digest
/-!
# Names of constraints and indexes

A name is made of what it is for, the table and the first field, cut short, and ends in digits of a digest over
the whole, so that names cut to the same beginning still differ.  No name is longer than 30 bytes.
-/

namespace Tabula.Schema

/-- the greatest length of a name in bytes -/
def maxNameBytes : Nat := 30

/-- the number of digits of the digest at the end of a name -/
def digestDigits : Nat := 6

/-- whether a byte is the first one of a character -/
def startsChar (b : UInt8) : Bool := b < 0x80 || 0xC0 ≤ b

/-- whether a text may be parted at an offset in its bytes: a character begins there, or the text ends -/
def isBoundary (bytes : Bytes) (offset : Nat) : Bool :=
  match bytes[offset]? with
  | some b => startsChar b
  | none => offset == bytes.length

/-- steps back from an offset to a boundary; no step leads out of the text -/
def boundaryFrom? (bytes : Bytes) : Nat → Option Nat
  | 0 => if isBoundary bytes 0 then some 0 else none
  | n + 1 => if isBoundary bytes (n + 1) then some (n + 1) else boundaryFrom? bytes n

/-- a text without what lies behind the last boundary in its first `room` bytes, if it is longer than that -/
def cut? (room : Nat) (s : String) : Option String :=
  let bytes := Text.utf8 s
  if bytes.length ≤ room then some s
  else (boundaryFrom? bytes room).bind fun offset => Text.ofUtf8? (bytes.take offset)

/-- the first `n` characters -/
def firstChars (n : Nat) (s : String) : String := String.ofList (s.toList.take n)

/-- the digest digits of a table with fields -/
def nameDigest (table : String) (fields : List String) : String :=
  firstChars digestDigits
    (Text.hexOfBytes (Digest.sha256 (Text.utf8 (table ++ ";" ++ ";".intercalate fields))))

/-- what a name shows: what it is for and the beginnings of the table and the first field -/
def shownPart (use table : String) (fields : List String) : String :=
  use ++ "_" ++ firstChars 11 table ++ "_" ++ firstChars 7 (fields.headD "")

/-- the name for an index or a constraint on the fields of a table -/
def name (use table : String) (fields : List String) : String :=
  (cut? (maxNameBytes - digestDigits - 1) (shownPart use table fields)).getD "" ++ "_" ++ nameDigest table fields

end Tabula.Schema
