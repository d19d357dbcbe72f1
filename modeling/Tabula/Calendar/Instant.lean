import Tabula.Calendar.Date
/-!
# Instants and spans

An instant is a moment in universal time: whole seconds from 1970-01-01T00:00:00 and the nanoseconds above
them.  The nanoseconds of a leap second run from `10 ^ 9` on.  A span is a signed length of time in
nanoseconds.
-/

namespace Tabula

/-- a moment in universal time -/
structure Instant where
  seconds : Int
  nanos : Nat
  deriving DecidableEq, Inhabited

/-- a length of time -/
structure Span where
  nanos : Int
  deriving DecidableEq, Inhabited

namespace Instant

/-- the calendar day -/
def date (t : Instant) : Date := ⟨t.seconds / 86400⟩

/-- the fraction of a second in as many groups of three digits as it takes -/
def fractionText (nanos : Nat) : String :=
  if nanos = 0 then ""
  else if nanos % 1000000 = 0 then "." ++ Text.padded 3 (nanos / 1000000)
  else if nanos % 1000 = 0 then "." ++ Text.padded 6 (nanos / 1000)
  else "." ++ Text.padded 9 nanos

/-- `hours:minutes:seconds` and the fraction; a leap second is second 60 -/
def clockText (t : Instant) : String :=
  let s := (t.seconds % 86400).toNat
  let leap := 1000000000 ≤ t.nanos
  let second := s % 60 + if leap then 1 else 0
  let nanos := if leap then t.nanos - 1000000000 else t.nanos
  Text.padded 2 (s / 3600) ++ ":" ++ Text.padded 2 (s / 60 % 60) ++ ":" ++ Text.padded 2 second
    ++ fractionText nanos

/-- date and time joined by `T` -/
def localText (t : Instant) : String := t.date.text ++ "T" ++ t.clockText

/-- date and time with the offset of universal time -/
def text (t : Instant) : String := t.localText ++ "+00:00"

/-! ## Reading -/

/-- exactly `n` digits -/
def digitsExactly? (n : Nat) (s : List Char) : Option (Nat × List Char) :=
  let digits := s.take n
  if digits.length = n && digits.all Char.isDigit then some (Text.natOfDigits digits, s.drop n) else none

/-- a fraction of a second after its point: the first nine digits count -/
def fractionOf? : List Char → Option (Nat × List Char)
  | '.' :: s =>
    let (digits, rest) := Text.spanDigits s
    if digits.isEmpty then none
    else
      let kept := digits.take 9
      some (Text.natOfDigits kept * Nat.pow 10 (9 - kept.length), rest)
  | s => some (0, s)

/-- an offset from universal time in seconds: `Z`, or a sign, hours below 24 and minutes -/
def offsetOf? : List Char → Option (Int × List Char)
  | [] => none
  | c :: s =>
    if c == 'Z' || c == 'z' then some (0, s)
    else if c == '+' || c == '-' || c == '\u2212' then do
      let (hours, s) ← digitsExactly? 2 s
      let s ← Date.expect? ':' s
      let (minutes, s) ← digitsExactly? 2 s
      if hours < 24 && minutes < 60 then
        let size : Int := ((hours * 3600 + minutes * 60 : Nat) : Int)
        some (if c == '+' then size else -size, s)
      else none
    else none

/-- reads a date, `T` or a blank, a time and an offset; nothing may follow -/
def ofText? (s : List Char) : Option Instant := do
  let (year, s) ← digitsExactly? 4 s
  let s ← Date.expect? '-' s
  let (month, s) ← digitsExactly? 2 s
  let s ← Date.expect? '-' s
  let (day, s) ← digitsExactly? 2 s
  let (mark, s) ← s.head?.map (·, s.drop 1)
  let (hour, s) ← if mark == 'T' || mark == 't' || mark == ' ' then digitsExactly? 2 s else none
  let s ← Date.expect? ':' s
  let (minute, s) ← digitsExactly? 2 s
  let s ← Date.expect? ':' s
  let (second, s) ← digitsExactly? 2 s
  let (nanos, s) ← fractionOf? s
  let (offset, s) ← offsetOf? s
  let date ← Date.ofCivil? ⟨year, month, day⟩
  if !s.isEmpty || 24 ≤ hour || 60 ≤ minute || 60 < second then none
  else
    let clock : Int := ((hour * 3600 + minute * 60 + min second 59 : Nat) : Int)
    some ⟨date.day * 86400 + clock - offset, if second = 60 then nanos + 1000000000 else nanos⟩

end Instant

namespace Span

/-- a span of whole microseconds -/
def ofMicros (n : Int) : Span := ⟨n * 1000⟩

/-- the whole microseconds, if they fit into a signed 64-bit number -/
def micros? (s : Span) : Option Int64 :=
  let n := Int.tdiv s.nanos 1000
  if Text.fitsSigned 64 n then some (Int64.ofInt n) else none

/-- the digits after the point, without zeros at the end -/
def trimmedFraction (nanos : Nat) : String :=
  if nanos = 0 then ""
  else "." ++ String.ofList ((Text.padded 9 nanos).toList.reverse.dropWhile (· == '0')).reverse

/-- seconds as `PT…S`; no time at all is `P0D` -/
def text (s : Span) : String :=
  let size := s.nanos.natAbs
  let body :=
    if size = 0 then "P0D"
    else "PT" ++ toString (size / 1000000000) ++ trimmedFraction (size % 1000000000) ++ "S"
  if s.nanos < 0 then "-" ++ body else body

end Span

end Tabula
