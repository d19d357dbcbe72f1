import Tabula.Postgres.ColumnType
import Tabula.Postgres.Numeric
import Tabula.Value.Basic
/-!
# Parameters

A value is bound to a placeholder in the binary form of the type that the server expects there.  `encode?` refuses
a value of a kind that does not go with the type, and a number outside the type's range; `bind?` also refuses an array
whose form could not be read again, since its counts have 32 bits.
-/

namespace Tabula.Postgres

/-- a cell in binary form; none is null -/
abbrev Cell := Option Bytes

namespace Parameter

/-- the first day that dates are counted from -/
def epochDay : Int := 10957

/-- whole microseconds from the first moment of the year 2000 -/
def micros? (t : Instant) : Option Int64 :=
  Span.micros? ⟨(t.seconds - epochDay * 86400) * 1000000000 + (t.nanos : Int)⟩

/-- a number that fits into `width` bytes -/
def word? (width : Nat) (i : Int) : Option Bytes :=
  if Text.fitsSigned (8 * width) i then some (intBytes width i) else none

/-- a document; the binary kind has a version in front -/
def document (t : ColumnType) (j : Json) : Bytes := (if t = .jsonb then [1] else []) ++ Text.utf8 j.text

/-- the 32-bit pattern nearest to a whole number -/
def singleOfInt (i : Int) : Nat :=
  (if i < 0 then BinaryFormat.single.signWeight else 0) + BinaryFormat.single.magnitudeOf i.natAbs 1

/-- the form of a whole number -/
def int? (t : ColumnType) (i : Int64) : Option Bytes :=
  match t with
  | .int8 => word? 8 i.toInt
  | .int4 => word? 4 i.toInt
  | .int2 => word? 2 i.toInt
  | .float8 => some (natBytes 8 (Double.ofInt i.toInt).bits.toNat)
  | .float4 => some (natBytes 4 (singleOfInt i.toInt))
  | .numeric => some (Numeric.ofDecimal (.ofInt64 i)).toBytes
  | t =>
    if t.isDocument then some (document t (.ofInt64 i))
    else if t.isFreeText then some (Text.utf8 (toString i.toInt))
    else none

/-- the form of a floating-point number -/
def float? (t : ColumnType) (d : Double) : Option Bytes :=
  match t with
  | .float8 => some (natBytes 8 d.bits.toNat)
  | .float4 => some (natBytes 4 d.toSingle.toNat)
  | .numeric => (Decimal.ofDouble? d).map fun x => (Numeric.ofDecimal x).toBytes
  | t => if t.isDocument then some (document t (.ofDouble d)) else none

/-- the form of a decimal -/
def decimal? (t : ColumnType) (d : Decimal) : Option Bytes :=
  match t with
  | .numeric => some (Numeric.ofDecimal d).toBytes
  | .float8 => some (natBytes 8 d.toDouble.bits.toNat)
  | t => if t.isFreeText then some (Text.utf8 d.text) else none

/-- the form of a text -/
def string? (t : ColumnType) (s : String) : Option Bytes :=
  if t.isTextual then some (Text.utf8 s)
  else if t.isDocument then some (document t (.str s))
  else if t = .uuid then (Uuid.ofText? s.toList).map Uuid.toBytes
  else none

/-- the binary form of a value that is neither null nor bound to an array -/
def scalar? (t : ColumnType) (v : Value) : Option Bytes :=
  match v with
  | .null => none
  | .bool b =>
    if t = .bool then some [if b then 1 else 0]
    else if t.isDocument then some (document t (.bool b))
    else none
  | .int i => int? t i
  | .float d => float? t d
  | .decimal d => decimal? t d
  | .string s => string? t s
  | .bytes b => if t = .bytea then some b else none
  | .date d => if t = .date then word? 4 (d.day - epochDay) else none
  | .instant i =>
    if t = .timestamptz || t = .timestamp then (micros? i).map fun n => intBytes 8 n.toInt else none
  | .span s => if t = .int8 then s.micros?.map fun n => intBytes 8 n.toInt else none
  | .uuid u =>
    if t = .uuid then some u.toBytes
    else if t.isFreeText then some (Text.utf8 u.text)
    else none
  | .json j =>
    if t.isDocument then some (document t j)
    else if t.isFreeText then some (Text.utf8 j.text)
    else none
  | .list items => if t.isDocument then some (document t (Value.list items).toJson) else none

/-- the form of an element of an array -/
def element? (t : ColumnType) (v : Value) : Option Cell :=
  if v.isNull then some none else (scalar? t v).map some

/-- an element behind its length; null has the length -1 -/
def sized : Cell → Bytes
  | none => intBytes 4 (-1)
  | some b => natBytes 4 b.length ++ b

/-- an array of one dimension that counts from 1 -/
def arrayBytes (t : ColumnType) (cells : List Cell) : Bytes :=
  natBytes 4 1 ++ natBytes 4 (if cells.any Option.isNone then 1 else 0) ++ natBytes 4 t.number
    ++ natBytes 4 cells.length ++ natBytes 4 1 ++ cells.flatMap sized

/-- the cell that is bound for a value -/
def encode? (t : ColumnType) (v : Value) : Option Cell :=
  match t, v with
  | _, .null => some none
  | .array t, .list items => (items.mapM (element? t)).map fun cells => some (arrayBytes t cells)
  | .array _, _ => none
  | t, v => (scalar? t v).map some

/-- whether an array has no more elements, and no element more bytes, than a signed number of 32 bits can tell -/
def isCounted (cells : List Cell) : Bool :=
  cells.length < Nat.pow 2 31 && cells.all fun c => c.all fun b => b.length < Nat.pow 2 31

/-- the cell that is sent for a value: an array that cannot be counted is refused -/
def bind? (t : ColumnType) (v : Value) : Option Cell :=
  match t, v with
  | .array own, .list items => do
    let cells ← items.mapM (element? own)
    if isCounted cells then return some (arrayBytes own cells) else none
  | t, v => encode? t v

end Parameter

end Tabula.Postgres
