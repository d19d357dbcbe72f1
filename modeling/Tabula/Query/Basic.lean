import Tabula.Instance.Store
/-!
# Queries

A query collects what is asked for and touches no database until it is run.  It may be put into two
single-result modes: `get` expects exactly one row, and `first` takes the first row if there is one.  Such a
query fetches no more rows than it takes to tell the outcome.
-/

namespace Tabula

/-- a query for rows of an entity -/
structure Query where
  entity : Entity
  /-- the database, if not that of the model -/
  database : Option String := none
  selection : Selection := {}
  /-- exactly one row is expected -/
  exactlyOne : Bool := false
  /-- the first row is wanted, if any -/
  firstOnly : Bool := false

namespace Query

/-- the database of an entity's rows unless another is chosen -/
def databaseOr (e : Entity) (database : Option String) : String := database.getD e.model.database

/-- keeps the rows that pass a filter -/
def filter (q : Query) (f : Filter) : Query :=
  { q with selection := { q.selection with filters := q.selection.filters ++ [f] } }

/-- drops the rows that pass a filter -/
def exclude (q : Query) (f : Filter) : Query := q.filter f.negate

/-- orders rows by the given keys and no others -/
def orderBy (q : Query) (keys : List String) : Query :=
  { q with selection := { q.selection with ordering := keys.map SortSpec.ofText } }

/-- caps the number of rows -/
def limit (q : Query) (n : Nat) : Query := { q with selection := { q.selection with limit := some n } }

/-- skips rows -/
def offset (q : Query) (n : Nat) : Query := { q with selection := { q.selection with offset := some n } }

/-- drops rows that are equal to others -/
def distinct (q : Query) : Query := { q with selection := { q.selection with distinct := true } }

/-- runs on another database -/
def routedTo (q : Query) (database : String) : Query := { q with database := some database }

/-- keeps the rows that pass a filter and expects exactly one -/
def get (q : Query) (f : Filter) : Query := { q with exactlyOne := true }.filter f

/-- takes the first row, if any -/
def first (q : Query) : Query := { q with firstOnly := true }

/-- the database that the query runs on -/
def databaseName (q : Query) : String := databaseOr q.entity q.database

/-- the text shown to a programmer -/
def inspect (q : Query) : String :=
  Text.shownRecord "QuerySet" [("model", Text.shown q.entity.model.name),
    ("db", Text.shownOption (q.database.map Text.shown)), ("parts", q.selection.inspect),
    ("expect_exactly_one", Text.shownBool q.exactlyOne), ("single_or_none", Text.shownBool q.firstOnly)]

/-! ## Single results -/

/-- the number of rows that tell the outcome of a single-result mode -/
def cap? (q : Query) : Option Nat := if q.exactlyOne then some 2 else if q.firstOnly then some 1 else none

/-- the selection that is fetched -/
def capped (q : Query) : Selection :=
  match q.cap? with
  | none => q.selection
  | some n => { q.selection with limit := some ((q.selection.limit.map fun l => min l n).getD n) }

/-- no row was found where one was expected -/
def noneFound (q : Query) : Error :=
  ⟨.doesNotExist, q.entity.model.name ++ " matching query does not exist"⟩

/-- several rows were found where one was expected -/
def severalFound (q : Query) : Error :=
  ⟨.multipleObjects, "more than one " ++ q.entity.model.name ++ " matches the query"⟩

/-- the single result that rows stand for -/
def single {α : Type} (q : Query) : List α → Outcome (Option α)
  | [] => if q.firstOnly || !q.exactlyOne then .ok none else .error q.noneFound
  | [row] => .ok (some row)
  | row :: _ :: _ => if q.exactlyOne then .error q.severalFound else .ok (some row)

/-- the results of `fetchAll` -/
def results {α : Type} (q : Query) (rows : List α) : Outcome (List α) :=
  if q.exactlyOne || q.firstOnly then (q.single rows).map Option.toList else .ok rows

/-- the query in the mode of `fetchOne` -/
def expectingOne (q : Query) : Query := { q with exactlyOne := true, firstOnly := false }

/-- the result of `fetchOne` -/
def one {α : Type} (q : Query) (rows : List α) : Outcome α := do
  match ← q.single rows with
  | some row => return row
  | none => .error q.noneFound

/-! ## Running -/

/-- fetches rows -/
def fetch (q : Query) (active : Active) (s : Selection) : Work (Outcome (List Instance)) :=
  Registry.onMapper q.entity q.databaseName fun m => m.select active s

/-- fetches all rows; in a single-result mode, the one row as a list -/
def fetchAll (q : Query) (active : Active) : Work (Outcome (List Instance)) := do
  return (← q.fetch active q.capped).bind q.results

/-- fetches exactly one row -/
def fetchOne (q : Query) (active : Active) : Work (Outcome Instance) := do
  let q := q.expectingOne
  return (← q.fetch active q.capped).bind q.one

/-- fetches the first row, if any; after `get`, several rows are still an error -/
def fetchOptional (q : Query) (active : Active) : Work (Outcome (Option Instance)) := do
  let q := q.first
  return (← q.fetch active q.capped).bind q.single

/-- counts the rows -/
def count (q : Query) (active : Active) : Work (Outcome Nat) :=
  Registry.onMapper q.entity q.databaseName fun m => m.count active q.selection

/-- whether there is any row -/
def any (q : Query) (active : Active) : Work (Outcome Bool) := do
  return (← q.fetch active (q.limit 1).selection).map fun rows => !rows.isEmpty

/-- sets fields in every row that passes the filters; counts the rows -/
def update (q : Query) (active : Active) (values : List (String × Value)) : Work (Outcome Nat) :=
  Registry.onMapper q.entity q.databaseName fun m => m.updateWhere active values q.selection.filters

/-- deletes every row that passes the filters; counts the rows -/
def delete (q : Query) (active : Active) : Work (Outcome Nat) :=
  Registry.onMapper q.entity q.databaseName fun m => m.deleteWhere active q.selection.filters

/-- the database's plan for the query -/
def explain (q : Query) (active : Active) : Work (Outcome Json) :=
  Registry.onMapper q.entity q.databaseName fun m => m.explain active q.capped

end Query

end Tabula
