import Tabula.Text.Blank
import Tabula.Text.Digits
/-!
# Calendar dates

Dates of the proleptic Gregorian calendar, counted in days from 1970-01-01.  The count and the civil form
(year, month, day) determine each other.
-/

namespace Tabula

/-- a date, as the number of days since 1970-01-01 -/
structure Date where
  day : Int
  deriving DecidableEq, Inhabited

/-- a date by year, month and day -/
structure Civil where
  year : Int
  month : Nat
  day : Nat
  deriving DecidableEq

namespace Civil

/-- whether a year has 366 days -/
def isLeap (year : Int) : Bool := year % 4 = 0 && (year % 100 ≠ 0 || year % 400 = 0)

/-- the number of days of a month -/
def monthLength (year : Int) (month : Nat) : Nat :=
  if month = 2 then (if isLeap year then 29 else 28)
  else if month = 4 || month = 6 || month = 9 || month = 11 then 30 else 31

/-- the years that dates are kept for -/
def leastYear : Int := -262143

def greatestYear : Int := 262142

/-- whether the parts name a day of the calendar -/
def isValid (c : Civil) : Bool :=
  leastYear ≤ c.year && c.year ≤ greatestYear && 1 ≤ c.month && c.month ≤ 12 && 1 ≤ c.day
    && c.day ≤ monthLength c.year c.month

/-- the days from 1970-01-01; the year is taken to start in March, so that the leap day ends it -/
def toDays (c : Civil) : Int :=
  let y := if c.month ≤ 2 then c.year - 1 else c.year
  let era := y / 400
  let yearOfEra := y % 400
  let m : Int := if 2 < c.month then (c.month : Int) - 3 else (c.month : Int) + 9
  let dayOfYear := (153 * m + 2) / 5 + (c.day : Int) - 1
  let dayOfEra := yearOfEra * 365 + yearOfEra / 4 - yearOfEra / 100 + dayOfYear
  era * 146097 + dayOfEra - 719468

/-- the date that lies `days` days after 1970-01-01 -/
def ofDays (days : Int) : Civil :=
  let z := days + 719468
  let era := z / 146097
  let dayOfEra := z % 146097
  let yearOfEra := (dayOfEra - dayOfEra / 1460 + dayOfEra / 36524 - dayOfEra / 146096) / 365
  let dayOfYear := dayOfEra - (365 * yearOfEra + yearOfEra / 4 - yearOfEra / 100)
  let m := (5 * dayOfYear + 2) / 153
  let day := dayOfYear - (153 * m + 2) / 5 + 1
  let month := if m < 10 then m + 3 else m - 9
  let year := yearOfEra + era * 400 + if month ≤ 2 then 1 else 0
  ⟨year, month.toNat, day.toNat⟩

/-- a year: four digits from 0 to 9999, else with its sign -/
def yearText (year : Int) : String :=
  if 0 ≤ year && year ≤ 9999 then Text.padded 4 year.toNat
  else (if year < 0 then "-" else "+") ++ Text.padded 4 year.natAbs

/-- `year-month-day` -/
def text (c : Civil) : String :=
  yearText c.year ++ "-" ++ Text.padded 2 c.month ++ "-" ++ Text.padded 2 c.day

end Civil

namespace Date

/-- the date of the given parts, if there is one -/
def ofCivil? (c : Civil) : Option Date := if c.isValid then some ⟨c.toDays⟩ else none

def civil (d : Date) : Civil := Civil.ofDays d.day

/-- the first and the last date -/
def leastDay : Int := Civil.toDays ⟨Civil.leastYear, 1, 1⟩

def greatestDay : Int := Civil.toDays ⟨Civil.greatestYear, 12, 31⟩

/-- the date `n` days after 1970-01-01, if dates reach that far -/
def ofDay? (n : Int) : Option Date := if leastDay ≤ n && n ≤ greatestDay then some ⟨n⟩ else none

/-- `year-month-day` -/
def text (d : Date) : String := d.civil.text

/-! ## Reading -/

/-- at least one and at most `width` digits -/
def digitsUpTo? (width : Nat) (s : List Char) : Option (Nat × List Char) :=
  let digits := (s.take width).takeWhile Char.isDigit
  if digits.isEmpty then none else some (Text.natOfDigits digits, s.drop digits.length)

/-- a year: up to four digits, or a sign and any number of them -/
def yearOf? : List Char → Option (Int × List Char)
  | '-' :: s => (digitsUpTo? s.length s).map fun (n, r) => (-(n : Int), r)
  | '+' :: s => (digitsUpTo? s.length s).map fun (n, r) => ((n : Int), r)
  | s => (digitsUpTo? 4 s).map fun (n, r) => ((n : Int), r)

/-- drops the given character -/
def expect? (c : Char) : List Char → Option (List Char)
  | d :: s => if d = c then some s else none
  | [] => none

/-- reads `year-month-day`; blanks may precede each number, and nothing may follow -/
def ofText? (s : List Char) : Option Date := do
  let (year, s) ← yearOf? (Text.trimStart s)
  let s ← expect? '-' s
  let (month, s) ← digitsUpTo? 2 (Text.trimStart s)
  let s ← expect? '-' s
  let (day, s) ← digitsUpTo? 2 (Text.trimStart s)
  if s.isEmpty then ofCivil? ⟨year, month, day⟩ else none

end Date

end Tabula
