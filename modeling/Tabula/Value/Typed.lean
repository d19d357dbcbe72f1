import Tabula.Value.Basic
/-!
# Typed access

`ToValue` makes values of ordinary types, `OfValue` takes them out again and says what it expected when the
kind is another.
-/

namespace Tabula

/-- types whose members are values -/
class ToValue (α : Type) where
  toValue : α → Value

export ToValue (toValue)

/-- types that can be taken out of a value -/
class OfValue (α : Type) where
  ofValue : Value → Outcome α

export OfValue (ofValue)

namespace Value

/-- the failure to find the expected kind -/
def mismatch {α : Type} (expected : String) (v : Value) : Outcome α :=
  failure .fieldValue ("expected " ++ expected ++ ", got " ++ v.kind)

/-- a whole number that fits into `bits` bits -/
def toWord (bits : Nat) (v : Value) : Outcome Int64 :=
  match v with
  | int i =>
    if Text.fitsSigned bits i.toInt then .ok i
    else failure .fieldValue
      ("int value out of i" ++ toString bits ++ " range: number too " ++ (if 0 < i then "large" else "small")
        ++ " to fit in target type")
  | v => mismatch "int" v

end Value

instance : ToValue Value := ⟨id⟩
instance : ToValue Bool := ⟨.bool⟩
instance : ToValue Int64 := ⟨.int⟩
instance : ToValue Int32 := ⟨fun i => .int i.toInt64⟩
instance : ToValue Int16 := ⟨fun i => .int i.toInt64⟩
instance : ToValue Double := ⟨.float⟩
instance : ToValue Decimal := ⟨.decimal⟩
instance : ToValue String := ⟨.string⟩
instance : ToValue Bytes := ⟨.bytes⟩
instance : ToValue Date := ⟨.date⟩
instance : ToValue Instant := ⟨.instant⟩
instance : ToValue Span := ⟨.span⟩
instance : ToValue Uuid := ⟨.uuid⟩
instance : ToValue Json := ⟨.json⟩

instance {α : Type} [ToValue α] : ToValue (Option α) :=
  ⟨fun o => match o with
    | some a => toValue a
    | none => .null⟩

/-- the list of the values of some items -/
def Value.ofItems {α : Type} [ToValue α] (items : List α) : Value := .list (items.map toValue)

instance : OfValue Value := ⟨.ok⟩

instance : OfValue Int64 := ⟨Value.toWord 64⟩

instance : OfValue Int32 := ⟨fun v => (Value.toWord 32 v).map Int64.toInt32⟩

instance : OfValue Int16 := ⟨fun v => (Value.toWord 16 v).map Int64.toInt16⟩

instance : OfValue Double :=
  ⟨fun v => match v with
    | .float d => .ok d
    | .int i => .ok (.ofInt i.toInt)
    | v => v.mismatch "float"⟩

instance : OfValue Decimal :=
  ⟨fun v => match v with
    | .decimal d => .ok d
    | .int i => .ok (.ofInt64 i)
    | v => v.mismatch "decimal"⟩

instance : OfValue Bool :=
  ⟨fun v => match v with
    | .bool b => .ok b
    | v => v.mismatch "bool"⟩

instance : OfValue String :=
  ⟨fun v => match v with
    | .string s => .ok s
    | v => v.mismatch "string"⟩

instance : OfValue Bytes :=
  ⟨fun v => match v with
    | .bytes b => .ok b
    | v => v.mismatch "bytes"⟩

instance : OfValue Date :=
  ⟨fun v => match v with
    | .date d => .ok d
    | v => v.mismatch "date"⟩

instance : OfValue Instant :=
  ⟨fun v => match v with
    | .instant t => .ok t
    | v => v.mismatch "datetime"⟩

instance : OfValue Span :=
  ⟨fun v => match v with
    | .span s => .ok s
    | v => v.mismatch "duration"⟩

instance : OfValue Uuid :=
  ⟨fun v => match v with
    | .uuid u => .ok u
    | v => v.mismatch "uuid"⟩

instance : OfValue Json :=
  ⟨fun v => match v with
    | .json j => .ok j
    | v => v.mismatch "json"⟩

instance {α : Type} [OfValue α] : OfValue (Option α) :=
  ⟨fun v => match v with
    | .null => .ok none
    | v => (ofValue v : Outcome α).map some⟩

/-- takes a value out as a type and turns it back -/
def Value.convert (α : Type) [OfValue α] [ToValue α] (v : Value) : Outcome Value :=
  (ofValue v : Outcome α).map toValue

end Tabula
