import Tabula.Text.Hex
/-!
# Binary words

Whole numbers as bytes in network order: the most significant byte stands first, and negative numbers are their
two's complement.
-/

namespace Tabula.Postgres

/-- the last `width` bytes of a number -/
def natBytes : Nat → Nat → Bytes
  | 0, _ => []
  | width + 1, n => natBytes width (n / 256) ++ [UInt8.ofNat n]

/-- the number that bytes stand for -/
def natOfBytes (b : Bytes) : Nat := b.foldl (fun n c => n * 256 + c.toNat) 0

/-- a whole number in `width` bytes -/
def intBytes (width : Nat) (i : Int) : Bytes := natBytes width (i % (Nat.pow 2 (8 * width) : Nat)).toNat

/-- the whole number that exactly `width` bytes stand for -/
def intOfBytes? (width : Nat) (b : Bytes) : Option Int :=
  if b.length = width then some (Int.bmod (natOfBytes b) (Nat.pow 2 (8 * width))) else none

/-- the number that exactly `width` bytes stand for, without a sign -/
def natOfBytes? (width : Nat) (b : Bytes) : Option Nat := if b.length = width then some (natOfBytes b) else none

/-- the first `n` bytes and the rest, if there are so many -/
def splitBytes? (n : Nat) (b : Bytes) : Option (Bytes × Bytes) :=
  if n ≤ b.length then some (b.splitAt n) else none

/-- reads a number of `width` bytes -/
def takeNat? (width : Nat) (b : Bytes) : Option (Nat × Bytes) := do
  let (word, rest) ← splitBytes? width b
  return (natOfBytes word, rest)

/-- reads a whole number of `width` bytes -/
def takeInt? (width : Nat) (b : Bytes) : Option (Int × Bytes) := do
  let (word, rest) ← splitBytes? width b
  return (← intOfBytes? width word, rest)

end Tabula.Postgres
