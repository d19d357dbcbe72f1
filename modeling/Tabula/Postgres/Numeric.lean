import Tabula.Number.Decimal
import Tabula.Postgres.Binary
/-!
# Numeric cells

Exact decimals on the wire: groups of four decimal digits, the first group's weight as a power of 10000, a sign
and the number of places shown.
-/

namespace Tabula.Postgres

/-- a decimal number in groups of four digits -/
structure Numeric where
  negative : Bool
  /-- the power of 10000 of the first group -/
  weight : Int
  /-- how many decimal places are shown -/
  scale : Nat
  groups : List Nat
  deriving DecidableEq, Repr

namespace Numeric

/-- the groups of a number, the first not zero -/
def groupsOf (n : Nat) : List Nat :=
  if _h : n = 0 then [] else groupsOf (n / 10000) ++ [n % 10000]
termination_by n
decreasing_by omega

/-- the number that groups stand for -/
def ofGroups (groups : List Nat) : Nat := groups.foldl (fun n g => n * 10000 + g) 0

/-- a decimal in groups: the point falls between two groups, and no group at the end is zero -/
def ofDecimal (d : Decimal) : Numeric :=
  if d.mantissa = 0 then ⟨false, 0, 0, [0]⟩
  else
    let after := (d.scale + 3) / 4
    let groups := groupsOf (d.mantissa * Nat.pow 10 (4 * after - d.scale))
    ⟨d.negative, (groups.length : Int) - (after : Int) - 1, d.scale,
      (groups.reverse.dropWhile (· == 0)).reverse⟩

/-- the number of places that are kept -/
def places : Nat := 28

/-- the number in units of the 28th place; the group after it rounds -/
def units (x : Numeric) : Nat :=
  let value := ofGroups x.groups
  let point : Int := x.weight + 1 - (x.groups.length : Int)
  let shift : Int := point * 4 + (places : Int)
  if 0 ≤ shift then value * Nat.pow 10 shift.toNat
  else
    let kept := value / Nat.pow 10000 ((-shift).toNat / 4 - 1)
    kept / 10000 + if 5000 ≤ kept % 10000 then 1 else 0

/-- the decimal with `n` places fewer than 28, or fewer still if it does not fit otherwise -/
def fitted? (negative : Bool) (units : Nat) : Nat → Nat → Option Decimal
  | 0, n => Decimal.ofParts? negative (Decimal.dropDigits n units) (places - n)
  | fuel + 1, n =>
    match Decimal.ofParts? negative (Decimal.dropDigits n units) (places - n) with
    | some d => some d
    | none => fitted? negative units fuel (n + 1)

/-- the decimal that groups stand for, if its whole part fits -/
def toDecimal? (x : Numeric) : Option Decimal :=
  let n := places - min places x.scale
  fitted? x.negative x.units (places - n) n

/-- the word that stands for the sign -/
def signWord (x : Numeric) : Nat := if x.negative then 0x4000 else 0

/-- the cell of a number -/
def toBytes (x : Numeric) : Bytes :=
  natBytes 2 x.groups.length ++ intBytes 2 x.weight ++ natBytes 2 x.signWord ++ natBytes 2 x.scale
    ++ x.groups.flatMap (natBytes 2)

/-- reads groups -/
def takeGroups? : Nat → Bytes → Option (List Nat)
  | 0, _ => some []
  | n + 1, b => do
    let (g, rest) ← takeNat? 2 b
    return g :: (← takeGroups? n rest)

/-- the number of a cell -/
def ofBytes? (b : Bytes) : Option Numeric := do
  let (count, b) ← takeNat? 2 b
  let (weight, b) ← takeInt? 2 b
  let (sign, b) ← takeNat? 2 b
  let (scale, b) ← takeNat? 2 b
  return ⟨sign = 0x4000, weight, scale, ← takeGroups? count b⟩

end Numeric

end Tabula.Postgres
