/-!
# Binary floating-point numbers

Numbers of a binary interchange format, kept as their bit patterns.  A pattern is a sign above a magnitude; a
finite magnitude stands for `significand · 2 ^ exponent`.  All arithmetic goes through exact rational numbers
and one rounding, to the nearest pattern and on a tie to the even one.
-/

namespace Tabula

/-- a binary interchange format, by the widths of its two lower fields -/
structure BinaryFormat where
  fractionBits : Nat
  exponentBits : Nat
  deriving DecidableEq

namespace BinaryFormat

/-- the 64-bit format -/
def double : BinaryFormat := ⟨52, 11⟩

/-- the 32-bit format -/
def single : BinaryFormat := ⟨23, 8⟩

/-- the exponent of the last place of the smallest numbers -/
def leastExponent (f : BinaryFormat) : Int :=
  2 - (Nat.pow 2 (f.exponentBits - 1) : Int) - (f.fractionBits : Int)

/-- the weight of the sign bit -/
def signWeight (f : BinaryFormat) : Nat := Nat.pow 2 (f.fractionBits + f.exponentBits)

/-- the magnitude of infinity; larger ones are not numbers -/
def infinity (f : BinaryFormat) : Nat := (Nat.pow 2 f.exponentBits - 1) * Nat.pow 2 f.fractionBits

/-- a finite magnitude as significand and exponent of two -/
def parts (f : BinaryFormat) (magnitude : Nat) : Nat × Int :=
  let field := magnitude / Nat.pow 2 f.fractionBits
  let fraction := magnitude % Nat.pow 2 f.fractionBits
  if field = 0 then (fraction, f.leastExponent)
  else (fraction + Nat.pow 2 f.fractionBits, f.leastExponent + (field : Int) - 1)

/-- the largest `k` with `2 ^ k ≤ num / den`, for positive `num` and `den` -/
def floorLog2 (num den : Nat) : Int :=
  let k : Int := (Nat.log2 num : Int) - (Nat.log2 den : Int)
  if num * Nat.pow 2 (-k).toNat < den * Nat.pow 2 k.toNat then k - 1 else k

/-- the whole number nearest to `num / den`, on a tie the even one -/
def nearestEven (num den : Nat) : Nat :=
  let q := num / den
  let twice := 2 * (num % den)
  if den < twice || (twice = den && q % 2 = 1) then q + 1 else q

/-- the magnitude nearest to `num / den`, on a tie the even one; too large a quotient is infinity -/
def magnitudeOf (f : BinaryFormat) (num den : Nat) : Nat :=
  if num = 0 then 0 else
    let e := max (floorLog2 num den - (f.fractionBits : Int)) f.leastExponent
    let q := nearestEven (num * Nat.pow 2 (-e).toNat) (den * Nat.pow 2 e.toNat)
    min ((e - f.leastExponent).toNat * Nat.pow 2 f.fractionBits + q) f.infinity

end BinaryFormat

/-- a number of the 64-bit format, as its bit pattern -/
structure Double where
  bits : UInt64
  deriving DecidableEq, Inhabited

namespace Double

/-- the sign bit -/
def isNegative (d : Double) : Bool := BinaryFormat.double.signWeight ≤ d.bits.toNat

/-- the pattern without its sign -/
def magnitude (d : Double) : Nat := d.bits.toNat % BinaryFormat.double.signWeight

/-- the number with the given sign and magnitude -/
def ofMagnitude (negative : Bool) (magnitude : Nat) : Double :=
  ⟨UInt64.ofNat (magnitude + if negative then BinaryFormat.double.signWeight else 0)⟩

def isNaN (d : Double) : Bool := BinaryFormat.double.infinity < d.magnitude

def isInfinite (d : Double) : Bool := d.magnitude = BinaryFormat.double.infinity

def isFinite (d : Double) : Bool := d.magnitude < BinaryFormat.double.infinity

def isZero (d : Double) : Bool := d.magnitude = 0

/-- the same number with the other sign -/
def neg (d : Double) : Double := ofMagnitude (!d.isNegative) d.magnitude

/-- the same number without its sign -/
def abs (d : Double) : Double := ofMagnitude false d.magnitude

/-- the quiet pattern that stands for no number -/
def nan : Double := ofMagnitude false (BinaryFormat.double.infinity + Nat.pow 2 51)

/-- infinity of the given sign -/
def infinite (negative : Bool) : Double := ofMagnitude negative BinaryFormat.double.infinity

/-- the quotient that a finite magnitude stands for -/
def ratio (d : Double) : Nat × Nat :=
  let (m, e) := BinaryFormat.double.parts d.magnitude
  (m * Nat.pow 2 e.toNat, Nat.pow 2 (-e).toNat)

/-- the exact value of a finite number -/
def toRat (d : Double) : Rat :=
  let (num, den) := d.ratio
  let size := (num : Rat) / (den : Rat)
  if d.isNegative then -size else size

/-- the number nearest to a quotient, with a sign -/
def ofRatio (negative : Bool) (num den : Nat) : Double :=
  ofMagnitude negative (BinaryFormat.double.magnitudeOf num den)

/-- the number nearest to a rational -/
def ofRat (q : Rat) : Double := ofRatio (q.num < 0) q.num.natAbs q.den

/-- the number nearest to a whole number -/
def ofInt (i : Int) : Double := ofRatio (i < 0) i.natAbs 1

/-- equality of values: the two zeros are equal, and what is not a number equals nothing -/
def same (a b : Double) : Bool :=
  !a.isNaN && !b.isNaN && (a.bits == b.bits || (a.isZero && b.isZero))

/-- the value without its fraction, for a finite number -/
def truncated (d : Double) : Int :=
  let (num, den) := d.ratio
  if d.isNegative then -((num / den : Nat) : Int) else ((num / den : Nat) : Int)

/-- whether a finite number is whole, or its fraction is below the last place of one -/
def isNearlyWhole (d : Double) : Bool :=
  let (num, den) := d.ratio
  d.isFinite && (num % den) * Nat.pow 2 52 < den

/-- a number of the 32-bit format widened -/
def ofSingle (bits : UInt32) : Double :=
  let f := BinaryFormat.single
  let negative := f.signWeight ≤ bits.toNat
  let magnitude := bits.toNat % f.signWeight
  if magnitude < f.infinity then
    let (m, e) := f.parts magnitude
    ofRatio negative (m * Nat.pow 2 e.toNat) (Nat.pow 2 (-e).toNat)
  else
    ofMagnitude negative (BinaryFormat.double.infinity + (magnitude - f.infinity) * Nat.pow 2 29 +
      if f.infinity < magnitude then (if magnitude - f.infinity < Nat.pow 2 22 then Nat.pow 2 51 else 0) else 0)

/-- the 32-bit pattern nearest to a number -/
def toSingle (d : Double) : UInt32 :=
  let f := BinaryFormat.single
  let sign := if d.isNegative then f.signWeight else 0
  if d.isFinite then
    let (num, den) := d.ratio
    UInt32.ofNat (sign + f.magnitudeOf num den)
  else
    let payload := (d.magnitude - BinaryFormat.double.infinity) / Nat.pow 2 29
    let quiet := if d.isNaN && payload < Nat.pow 2 22 then Nat.pow 2 22 else 0
    UInt32.ofNat (sign + f.infinity + payload + quiet)

end Double

end Tabula
