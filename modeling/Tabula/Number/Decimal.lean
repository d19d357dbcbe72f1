import Tabula.Number.Double
import Tabula.Text.Digits
/-!
# Exact decimal numbers

A sign, a 96-bit mantissa and a scale of at most 28 places: the number is `± mantissa / 10 ^ scale`.  The
scale is kept, so `1.50` and `1.5` are two representations of one number; `same` compares numbers.
-/

namespace Tabula

/-- the mantissas of decimals are below this number, the 96th power of two -/
def mantissaBound : Nat := 79228162514264337593543950336

/-- a decimal number with its scale -/
structure Decimal where
  negative : Bool
  mantissa : Nat
  scale : Nat
  mantissa_lt : mantissa < mantissaBound := by decide
  scale_le : scale ≤ 28 := by decide
  deriving DecidableEq

namespace Decimal

instance : Inhabited Decimal := ⟨⟨false, 0, 0, by decide, by decide⟩⟩

/-- the number of the given parts, if they fit -/
def ofParts? (negative : Bool) (mantissa scale : Nat) : Option Decimal :=
  if h : mantissa < mantissaBound ∧ scale ≤ 28 then some ⟨negative, mantissa, scale, h.1, h.2⟩ else none

/-- as `ofParts?`, where zero has no sign -/
def ofSigned? (negative : Bool) (mantissa scale : Nat) : Option Decimal :=
  ofParts? (negative && mantissa != 0) mantissa scale

/-- a whole number of at most 64 bits -/
def ofInt64 (i : Int64) : Decimal :=
  let size := i.toInt.natAbs
  if h : size < mantissaBound then ⟨i < 0, size, 0, h, by decide⟩ else default

/-- the exact value -/
def toRat (d : Decimal) : Rat :=
  let size := (d.mantissa : Rat) / ((Nat.pow 10 d.scale : Nat) : Rat)
  if d.negative then -size else size

/-- equality of numbers, whatever their scales -/
def same (a b : Decimal) : Bool :=
  let x := a.mantissa * Nat.pow 10 b.scale
  let y := b.mantissa * Nat.pow 10 a.scale
  x == y && (a.negative == b.negative || x == 0)

/-- whether the number is whole -/
def isWhole (d : Decimal) : Bool := d.mantissa % Nat.pow 10 d.scale == 0

/-- the whole part as a signed 64-bit number, if it fits -/
def toInt64? (d : Decimal) : Option Int64 :=
  let size : Int := ((d.mantissa / Nat.pow 10 d.scale : Nat) : Int)
  let i := if d.negative then -size else size
  if Text.fitsSigned 64 i then some (Int64.ofInt i) else none

/-- the digits with the point in their place; the scale decides how many follow it -/
def text (d : Decimal) : String :=
  let digits := (toString d.mantissa).toList
  let all := List.replicate (d.scale + 1 - digits.length) '0' ++ digits
  let whole := all.length - d.scale
  let body := if d.scale = 0 then String.ofList all else String.ofList (all.take whole ++ '.' :: all.drop whole)
  if d.negative then "-" ++ body else body

/-! ## Rounding -/

/-- the number rounded to at most `places` places, a half going to the even neighbour; a number with no
more places than that stays as it is -/
def round (d : Decimal) (places : Nat) : Decimal :=
  if places < d.scale then
    let m := BinaryFormat.nearestEven d.mantissa (Nat.pow 10 (d.scale - places))
    match ofSigned? d.negative m places with
    | some r => r
    | none => d
  else d

/-! ## Reading -/

/-- ends a reading at the first digit that has no room: a half or more adds one in the last place, and
a mantissa that then outgrows its 96 bits gives up one more place -/
def roundedAt? (negative : Bool) (mantissa scale : Nat) (next : Char) : Option Decimal :=
  if next.isDigit || next == '_' || next == '.' then
    let up := next.isDigit && '5' ≤ next
    let m := if up then mantissa + 1 else mantissa
    if m < mantissaBound then ofSigned? negative m scale
    else if scale = 0 then none
    else ofSigned? negative ((m + 4) / 10) (scale - 1)
  else none

/-- reads on after `mantissa` with `scale` places; `point` tells whether the point has been read and `hasDigit`
whether any digit has -/
def readFrom (negative point hasDigit : Bool) (mantissa scale : Nat) : List Char → Option Decimal
  | [] => if hasDigit then ofSigned? negative mantissa scale else none
  | c :: rest =>
    if c.isDigit then
      let m := mantissa * 10 + (c.toNat - '0'.toNat)
      if mantissaBound ≤ m then (if point then roundedAt? negative mantissa scale c else none)
      else
        let s := if point then scale + 1 else scale
        match rest with
        | next :: _ => if point && 28 ≤ s then roundedAt? negative m s next else readFrom negative point true m s rest
        | [] => readFrom negative point true m s rest
    else if c == '.' && !point then readFrom negative true hasDigit mantissa scale rest
    else if c == '_' && hasDigit then readFrom negative point hasDigit mantissa scale rest
    else none

/-- reads `[sign] digits [. digits]` with underscores after the first digit; places beyond the 28th, or
beyond the 96 bits, are rounded off and what follows them is not looked at -/
def ofPlainText? : List Char → Option Decimal
  | '-' :: s => readFrom true false false 0 0 s
  | '+' :: s => readFrom false false false 0 0 s
  | s => readFrom false false false 0 0 s

/-- divides by `10 ^ n`, looking at the first digit dropped: five and more round up -/
def dropDigits (n m : Nat) : Nat := if n = 0 then m else (m / Nat.pow 10 (n - 1) + 5) / 10

/-- drops zeros at the end, at most `n` of them -/
def withoutZeros : Nat → Nat → Nat → Nat × Nat
  | 0, m, s => (m, s)
  | n + 1, m, s => if 0 < s && m % 10 = 0 then withoutZeros n (m / 10) (s - 1) else (m, s)

/-- the number times `10 ^ n`: places are used up first, then zeros are added -/
def timesTen? (d : Decimal) (n : Nat) : Option Decimal :=
  if n ≤ d.scale then ofParts? d.negative d.mantissa (d.scale - n)
  else if 28 < n then none
  else
    let (m, s) := withoutZeros 28 (d.mantissa * Nat.pow 10 n) d.scale
    ofSigned? d.negative m s

/-- the number divided by `10 ^ n`, rounded to 28 places -/
def overTen? (d : Decimal) (n : Nat) : Option Decimal :=
  if 28 < n then none
  else if d.scale + n ≤ 28 then ofParts? d.negative d.mantissa (d.scale + n)
  else ofParts? d.negative (dropDigits (d.scale + n - 28) d.mantissa) 28

/-- reads a plain number, or one with a power of ten after `e` -/
def ofText? (s : List Char) : Option Decimal :=
  match s.span (fun c => c != 'e' && c != 'E') with
  | (base, []) => ofPlainText? base
  | (base, _ :: power) => do
    let d ← ofPlainText? base
    match power with
    | '-' :: digits => d.overTen? (← Text.natOfText? digits)
    | '+' :: digits => d.timesTen? (← Text.natOfText? digits)
    | digits => d.timesTen? (← Text.natOfText? digits)

/-! ## To and from floating point -/

/-- the nearest 64-bit number to the integral part, plus the nearest to the fraction, rounded once more to
`scale` places -/
def toDouble (d : Decimal) : Double :=
  let unit := Nat.pow 10 d.scale
  let fit (num den : Nat) : Rat := (Double.ofRatio false num den).toRat
  let signed (q : Rat) : Double := Double.ofRatio d.negative q.num.natAbs q.den
  if d.scale = 0 then Double.ofRatio (d.negative && d.mantissa != 0) d.mantissa 1
  else
    let integral := fit (d.mantissa / unit) 1
    let fraction := (Double.ofRat (fit (d.mantissa % unit) 1 / fit unit 1)).toRat
    if fraction = 0 then signed integral
    else
      let power := fit unit 1
      let value := (Double.ofRat (integral + fraction)).toRat
      let scaled := (Double.ofRat (value * power)).toRat
      let rounded : Rat := ((scaled + 1 / 2).floor : Rat)
      signed (Double.ofRat ((Double.ofRat rounded).toRat / power)).toRat

/-- multiplies by five for each negative power of two, halving instead where the mantissa is even or would
outgrow its 96 bits; gives the mantissa and the power of ten -/
def fromHalves : Nat → Nat → Int → Nat × Int
  | 0, m, ten => (m, ten)
  | fives + 1, m, ten =>
    if m % 2 = 0 || mantissaBound ≤ m * 5 then fromHalves fives (m / 2) (ten + 1)
    else fromHalves fives (m * 5) ten

/-- doubles for each positive power of two while the mantissa has room, then divides by five -/
def fromDoubles : Nat → Nat → Int → Nat × Int
  | 0, m, ten => (m, ten)
  | fives + 1, m, ten =>
    if m < Nat.pow 2 95 then fromDoubles fives (m * 2) (ten - 1) else fromDoubles fives (m / 5) ten

/-- divides by ten, the rest rounding half up -/
def tenth (m : Nat) : Nat := (m + 5) / 10

/-- divides by ten `n` times, a mantissa that vanishes ending it -/
def scaleDown : Nat → Nat → Int → Nat × Int
  | 0, m, ten => (m, ten)
  | n + 1, m, ten =>
    if m / 10 = 0 then (0, 0) else scaleDown n (tenth m) (ten + 1)

/-- divides by ten until 53 bits are enough or no place is left -/
def trimBits : Nat → Nat → Int → Nat × Int
  | 0, m, ten => (m, ten)
  | n + 1, m, ten => if ten < 0 && Nat.pow 2 52 ≤ m then trimBits n (tenth m) (ten + 1) else (m, ten)

/-- drops zeros at the end while there are places -/
def trimZeros : Nat → Nat → Int → Nat × Int
  | 0, m, ten => (m, ten)
  | n + 1, m, ten => if ten < 0 && m % 10 = 0 then trimZeros n (m / 10) (ten + 1) else (m, ten)

/-- the decimal number with about the sixteen digits that a 64-bit number carries; none for what is not
finite or too large -/
def ofDouble? (d : Double) : Option Decimal :=
  if !d.isFinite then none
  else if d.isZero then ofParts? d.isNegative 0 0
  else
    let (m, e) := BinaryFormat.double.parts d.magnitude
    let (m, ten) := if e < 0 then fromHalves (-e).toNat m e else fromDoubles e.toNat m e
    let m' := m * Nat.pow 10 ten.toNat
    if mantissaBound ≤ m' then none
    else
      let (m, ten) := scaleDown (-28 - min ten 0).toNat m' (min ten 0)
      let (m, ten) := trimBits 28 m ten
      let (m, ten) := trimZeros 28 m ten
      ofParts? d.isNegative m (-ten).toNat

end Decimal

end Tabula
