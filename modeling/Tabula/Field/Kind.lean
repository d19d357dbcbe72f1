import Tabula.Text.Escaped
/-!
# Kinds of fields

What a field of a model means, and the column type that stores it.
-/

namespace Tabula

/-- the meaning of a field -/
inductive FieldKind where
  /-- whole numbers of 32, 64 and 16 bits -/
  | int | bigInt | smallInt
  /-- a 64-bit number that the database draws on insertion -/
  | auto
  /-- a counter that goes up by one on every save -/
  | version
  /-- text of at most `maxLength` characters, and text of any length -/
  | char (maxLength : Nat) | text
  | boolean
  /-- an exact number of at most `maxDigits` digits, `places` of them after the point -/
  | decimal (maxDigits places : Nat)
  /-- a moment; filled in `onSave` at every save, `onCreate` only at the first -/
  | instant (onSave onCreate : Bool)
  | date
  /-- a length of time, stored in microseconds -/
  | span
  | float | json | uuid | binary
  deriving DecidableEq

namespace FieldKind

/-- the type of the column that stores the field -/
def columnType : FieldKind → String
  | int => "INT"
  | bigInt => "BIGINT"
  | smallInt => "SMALLINT"
  | auto => "BIGSERIAL"
  | version => "BIGINT"
  | char n => "VARCHAR(" ++ toString n ++ ")"
  | text => "TEXT"
  | boolean => "BOOL"
  | decimal m p => "DECIMAL(" ++ toString m ++ "," ++ toString p ++ ")"
  | instant _ _ => "TIMESTAMPTZ"
  | date => "DATE"
  | span => "BIGINT"
  | float => "DOUBLE PRECISION"
  | json => "JSONB"
  | uuid => "UUID"
  | binary => "BYTEA"

/-- whether the field holds text -/
def isTextual : FieldKind → Bool
  | char _ | text => true
  | _ => false

/-- whether its column can be ordered and indexed -/
def isIndexable : FieldKind → Bool
  | binary => false
  | _ => true

/-- whether the database makes its value on insertion -/
def isGenerated : FieldKind → Bool
  | auto => true
  | _ => false

/-- whether a save fills it in -/
def isAutomatic : FieldKind → Bool
  | version => true
  | instant onSave onCreate => onSave || onCreate
  | _ => false

/-- what is wrong with the parameters, if anything is -/
def fault? : FieldKind → Option String
  | char n => if n < 1 then some "'max_length' must be >= 1" else none
  | decimal m p =>
    if m < 1 then some "'max_digits' must be >= 1"
    else if m < p then some "'decimal_places' must not exceed 'max_digits'"
    else none
  | instant true true => some "You can choose only 'auto_now' or 'auto_now_add'"
  | _ => none

/-- the text that shows the kind to a programmer -/
def inspect : FieldKind → String
  | int => "Int"
  | bigInt => "BigInt"
  | smallInt => "SmallInt"
  | auto => "Auto"
  | version => "DataVersion"
  | char n => Text.shownRecord "Char" [("max_length", toString n)]
  | text => "Text"
  | boolean => "Boolean"
  | decimal m p => Text.shownRecord "Decimal" [("max_digits", toString m), ("decimal_places", toString p)]
  | instant onSave onCreate =>
    Text.shownRecord "Datetime" [("auto_now", Text.shownBool onSave), ("auto_now_add", Text.shownBool onCreate)]
  | date => "Date"
  | span => "TimeDelta"
  | float => "Float"
  | json => "Json"
  | uuid => "Uuid"
  | binary => "Binary"

end FieldKind

end Tabula
