import Tabula.Number.Double
import Tabula.Text.Digits
/-!
# The fewest digits that read back

`Shortest.decimal` finds the decimal number with the fewest digits that rounds to a given floating-point
number, and of those the nearest one.  `FloatStyle` says how such digits are laid out as text, and
`Double.ofText?` reads a number back.
-/

namespace Tabula

namespace Shortest

/-- the largest `k` with `10 ^ k ≤ num / den`, for positive `num` and `den` -/
def floorLog10 (num den : Nat) : Int :=
  if den ≤ num then ((Nat.toDigits 10 (num / den)).length : Int) - 1
  else -((Nat.toDigits 10 ((den - 1) / num)).length : Int)

/-- the multiple of `10 ^ k` just below or at `num / den`, in units of `10 ^ k`, and twice the rest over its
divisor -/
def below (num den : Nat) (k : Int) : Nat × Nat × Nat :=
  let n := num * Nat.pow 10 (-k).toNat
  let d := den * Nat.pow 10 k.toNat
  (n / d, 2 * (n % d), d)

/-- whether `digits · 10 ^ k` rounds to the magnitude `m` -/
def readsBack (m : Nat) (digits : Nat) (k : Int) : Bool :=
  BinaryFormat.double.magnitudeOf (digits * Nat.pow 10 k.toNat) (Nat.pow 10 (-k).toNat) == m

/-- the neighbour on the grid of `10 ^ k` that reads back, the nearer one of two; `tieUp` says where an exact
tie goes from an even lower neighbour -/
def onGrid (tieUp : Bool) (m num den : Nat) (k : Int) : Option Nat :=
  let (low, twice, d) := below num den k
  match readsBack m low k, readsBack m (low + 1) k with
  | true, true =>
    if twice < d then some low
    else if d < twice then some (low + 1)
    else if tieUp || low % 2 = 1 then some (low + 1) else some low
  | true, false => some low
  | false, true => some (low + 1)
  | false, false => none

/-- tries one digit, then two, and so on -/
def search (tieUp : Bool) (m num den : Nat) (top : Int) : Nat → Nat → Nat × Int
  | 0, n => ((below num den (top + 1 - n)).1, top + 1 - n)
  | more + 1, n =>
    match onGrid tieUp m num den (top + 1 - n) with
    | some digits => (digits, top + 1 - n)
    | none => search tieUp m num den top more (n + 1)

/-- drops the zeros at the end of the digits -/
def stripZeros : Nat → Nat → Int → Nat × Int
  | 0, digits, k => (digits, k)
  | more + 1, digits, k => if digits % 10 = 0 then stripZeros more (digits / 10) (k + 1) else (digits, k)

/-- digits and power of ten of the shortest decimal number that rounds to the positive magnitude `m` -/
def decimal (tieUp : Bool) (m : Nat) : Nat × Int :=
  let (num, den) := (Double.ofMagnitude false m).ratio
  let (digits, k) := search tieUp m num den (floorLog10 num den) 17 1
  stripZeros 20 digits k

end Shortest

/-- how the shortest digits of a number are laid out -/
structure FloatStyle where
  /-- an exact tie between two shortest candidates goes up, else to the even one -/
  tieUp : Bool
  /-- the leading digit's powers of ten that are written positionally; `none` for all -/
  positional : Option (Int × Int)
  /-- whole numbers written positionally keep `.0` -/
  keepsPoint : Bool
  /-- a positive power of ten has its sign -/
  signsPower : Bool

namespace FloatStyle

/-- plain text: positional whatever the size, whole numbers without a point -/
def plain : FloatStyle := ⟨true, none, false, false⟩

/-- inspection text: positional from `10 ^ -4` up to `10 ^ 16`, whole numbers with `.0` -/
def inspect : FloatStyle := ⟨true, some (-4, 15), true, false⟩

/-- document text: positional from `10 ^ -5` up to `10 ^ 16`, whole numbers with `.0`, powers with
their sign -/
def document : FloatStyle := ⟨false, some (-5, 15), true, true⟩

/-- `digits · 10 ^ k` without an exponent -/
def positionalText (keepsPoint : Bool) (digits : List Char) (k : Int) : String :=
  if 0 ≤ k then
    String.ofList (digits ++ List.replicate k.toNat '0') ++ if keepsPoint then ".0" else ""
  else
    let places := (-k).toNat
    let all := List.replicate (places + 1 - digits.length) '0' ++ digits
    let whole := all.length - places
    String.ofList (all.take whole ++ '.' :: all.drop whole)

/-- one digit before the point, then the power of ten after `e` -/
def exponentText (signsPower : Bool) (digits : List Char) (k : Int) : String :=
  let top := k + (digits.length : Int) - 1
  let power := (if signsPower && 0 ≤ top then "e+" else "e") ++ toString top
  match digits with
  | [] => "0"
  | [d] => String.singleton d ++ power
  | d :: rest => String.ofList (d :: '.' :: rest) ++ power

/-- the text of a positive finite magnitude -/
def magnitudeText (style : FloatStyle) (m : Nat) : String :=
  let (n, k) := Shortest.decimal style.tieUp m
  let digits := (toString n).toList
  let top := k + (digits.length : Int) - 1
  match style.positional with
  | some (least, most) =>
    if least ≤ top && top ≤ most then positionalText style.keepsPoint digits k else exponentText style.signsPower digits k
  | none => positionalText style.keepsPoint digits k

/-- the text of a number -/
def text (style : FloatStyle) (d : Double) : String :=
  if d.isNaN then "NaN" else
    let body :=
      if d.isInfinite then "inf"
      else if d.isZero then (if style.keepsPoint then "0.0" else "0")
      else style.magnitudeText d.magnitude
    if d.isNegative then "-" ++ body else body

end FloatStyle

namespace Double

/-- an optional sign and what follows it -/
def spanSign : List Char → Bool × List Char
  | '-' :: s => (true, s)
  | '+' :: s => (false, s)
  | s => (false, s)

/-- the power of ten after `e`: an optional sign and at least one digit, up to the end -/
def exponentOfText? : List Char → Option Int
  | [] => some 0
  | c :: s => if c == 'e' || c == 'E' then Text.intOfText? s else none

/-- the value of `digits · 10 ^ k`, rounded; powers far outside the range are cut off unread -/
def ofScaled (negative : Bool) (digits : List Char) (k : Int) : Double :=
  let kept := digits.dropWhile (· == '0')
  let top := k + (kept.length : Int)
  if kept.isEmpty || top < -400 then ofMagnitude negative 0
  else if 400 < top then infinite negative
  else ofRatio negative (Text.natOfDigits kept * Nat.pow 10 k.toNat) (Nat.pow 10 (-k).toNat)

/-- reads `[sign] digits [. digits] [e exponent]`, with at least one digit before the exponent, or one of the
words for infinity and for what is no number, in any letter case -/
def ofText? (s : List Char) : Option Double :=
  let (negative, body) := spanSign s
  let word := String.ofList (body.map Char.toLower)
  if word = "inf" || word = "infinity" then some (infinite negative)
  else if word = "nan" then some (if negative then nan.neg else nan)
  else
    let (whole, rest) := Text.spanDigits body
    let (fraction, rest) := match rest with
      | '.' :: r => Text.spanDigits r
      | r => ([], r)
    if whole.isEmpty && fraction.isEmpty then none
    else (exponentOfText? rest).map fun e =>
      ofScaled negative (whole ++ fraction) (e - (fraction.length : Int))

end Double

end Tabula
