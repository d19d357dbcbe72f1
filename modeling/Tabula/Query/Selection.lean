import Tabula.Filter.Basic
/-!
# Selections

What a query asks for: filters, sort keys and a window over the rows.
-/

namespace Tabula

/-- a sort key: the name of a field, `pk`, or a path into a document -/
structure SortSpec where
  key : String
  descending : Bool
  deriving DecidableEq

namespace SortSpec

/-- `name`, or `-name` for descending order -/
def ofText (s : String) : SortSpec :=
  match s.toList with
  | '-' :: rest => ⟨String.ofList rest, true⟩
  | _ => ⟨s, false⟩

def inspect (o : SortSpec) : String :=
  Text.shownRecord "OrderBy" [("key", Text.shown o.key), ("descending", Text.shownBool o.descending)]

end SortSpec

/-- filters, sort keys and window of a query -/
structure Selection where
  /-- filters that all have to hold -/
  filters : List Filter := []
  ordering : List SortSpec := []
  limit : Option Nat := none
  offset : Option Nat := none
  distinct : Bool := false

namespace Selection

/-- whether rows are dropped after filtering -/
def isWindowed (s : Selection) : Bool := s.limit.isSome || s.offset.isSome || s.distinct

def inspect (s : Selection) : String :=
  Text.shownRecord "QueryParts" [("filters", Text.shownList (s.filters.map Filter.inspect)),
    ("ordering", Text.shownList (s.ordering.map SortSpec.inspect)),
    ("limit", Text.shownOption (s.limit.map toString)), ("offset", Text.shownOption (s.offset.map toString)),
    ("distinct", Text.shownBool s.distinct)]

end Selection

end Tabula
