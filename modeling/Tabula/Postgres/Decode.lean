import Tabula.Json.Reader
import Tabula.Postgres.Parameter
/-!
# Cells of rows

The value of a cell in the binary form of its column's type.  A type without values of its own is refused by
name; a cell that is not in the form of its type is malformed.
-/

namespace Tabula.Postgres

/-- why a cell has no value -/
inductive CellFault where
  /-- cells of the type cannot be read -/
  | unsupported
  /-- the cell is not in the form of its type -/
  | malformed
  deriving DecidableEq, Repr

namespace Cell

/-- the value of a moment counted in microseconds from the year 2000 -/
def instant? (micros : Int) : Option Instant :=
  let t : Instant := ⟨Parameter.epochDay * 86400 + micros / 1000000, (micros % 1000000).toNat * 1000⟩
  (Date.ofDay? t.date.day).map fun _ => t

/-- the document of a cell -/
def document? (t : ColumnType) (b : Bytes) : Option Json :=
  match t, b with
  | .jsonb, 1 :: rest => (Text.ofUtf8? rest).bind Json.ofText?
  | .jsonb, _ => none
  | _, b => (Text.ofUtf8? b).bind Json.ofText?

/-- the value of a cell that is neither null nor an array -/
def scalar? (t : ColumnType) (b : Bytes) : Option Value :=
  let int (width : Nat) : Option Value := (intOfBytes? width b).map fun i => .int (Int64.ofInt i)
  match t with
  | .bool => (natOfBytes? 1 b).map fun n => .bool (n ≠ 0)
  | .int2 => int 2
  | .int4 => int 4
  | .int8 => int 8
  | .oid => (natOfBytes? 4 b).map fun n => .int (Int64.ofNat n)
  | .float4 => (natOfBytes? 4 b).map fun n => .float (.ofSingle (UInt32.ofNat n))
  | .float8 => (natOfBytes? 8 b).map fun n => .float ⟨UInt64.ofNat n⟩
  | .numeric => ((Numeric.ofBytes? b).bind Numeric.toDecimal?).map .decimal
  | .bytea => some (.bytes b)
  | .uuid => (Uuid.ofBytes? b).map .uuid
  | .date => (intOfBytes? 4 b).bind fun n => (Date.ofDay? (n + Parameter.epochDay)).map .date
  | .timestamp | .timestamptz => (intOfBytes? 8 b).bind fun n => (instant? n).map .instant
  | .json | .jsonb => (document? t b).map .json
  | t => if t.isTextual then (Text.ofUtf8? b).map .string else none

/-- whether cells of a type can be read -/
def isReadable : ColumnType → Bool
  | .array t => ColumnType.readableElements.contains t
  | .other _ => false
  | _ => true

/-- reads the elements of an array -/
def items? (t : ColumnType) : Nat → Bytes → Option (List Value)
  | 0, b => if b.isEmpty then some [] else none
  | n + 1, b => do
    let (size, b) ← takeInt? 4 b
    if size < 0 then return .null :: (← items? t n b)
    else
      let (own, rest) ← splitBytes? size.toNat b
      return (← scalar? t own) :: (← items? t n rest)

/-- the elements of an array of at most one dimension -/
def array? (t : ColumnType) (b : Bytes) : Option (List Value) := do
  let (dimensions, b) ← takeInt? 4 b
  let (_, b) ← takeInt? 4 b
  let (_, b) ← takeNat? 4 b
  match dimensions with
  | 0 => items? t 0 b
  | 1 =>
    let (size, b) ← takeInt? 4 b
    let (_, b) ← takeInt? 4 b
    if size < 0 then none else items? t size.toNat b
  | _ => none

/-- the value of a cell -/
def decode (t : ColumnType) (cell : Cell) : Except CellFault Value :=
  if !isReadable t then .error .unsupported
  else
    match cell with
    | none => .ok .null
    | some b =>
      let read := match t with
        | .array t => (array? t b).map .list
        | t => scalar? t b
      match read with
      | some v => .ok v
      | none => .error .malformed

end Cell

end Tabula.Postgres
