/-!
# Entries by name

A finite map from names, held as the list of its entries in the order of their names, each name once.
-/

namespace Tabula.Keyed

variable {α : Type}

/-- puts an entry in its place by name, over one of the same name -/
def insert (key : String) (value : α) : List (String × α) → List (String × α)
  | [] => [(key, value)]
  | (k, v) :: rest =>
    if key < k then (key, value) :: (k, v) :: rest
    else if key = k then (key, value) :: rest
    else (k, v) :: insert key value rest

/-- the map with the given entries, a later one over an earlier one of the same name -/
def ofList (entries : List (String × α)) : List (String × α) :=
  entries.foldl (fun m e => insert e.1 e.2 m) []

/-- the value under a name -/
def find? (key : String) (entries : List (String × α)) : Option α := entries.lookup key

/-- the map without the entry of a name -/
def erase (key : String) (entries : List (String × α)) : List (String × α) :=
  entries.filter fun e => e.1 ≠ key

/-- whether there is an entry under a name -/
def contains (key : String) (entries : List (String × α)) : Bool := entries.any fun e => e.1 = key

/-- the names, in order -/
def names (entries : List (String × α)) : List String := entries.map Prod.fst

end Tabula.Keyed
