import Tabula.Value.Typed
/-!
# Rows

A row of a result: named columns with their values.
-/

namespace Tabula

/-- one row of a result -/
structure Row where
  columns : List String
  values : List Value

namespace Row

/-- the value of the first column of that name -/
def value? (r : Row) (column : String) : Option Value :=
  (r.columns.idxOf? column).bind (r.values[·]?)

/-- the value of a column as an ordinary type -/
def get {α : Type} [OfValue α] (r : Row) (column : String) : Outcome α :=
  match r.value? column with
  | some v => ofValue v
  | none => failure .database ("column '" ++ column ++ "' not found in row")

/-- the value at an index as an ordinary type -/
def getAt {α : Type} [OfValue α] (r : Row) (i : Nat) : Outcome α :=
  match r.values[i]? with
  | some v => ofValue v
  | none =>
    failure .database
      ("column index " ++ toString i ++ " out of bounds (row has " ++ toString r.values.length ++ " columns)")

end Row

end Tabula
