import Tabula.Proofs.Instance.FailedSave
import Tabula.Proofs.Query.BulkWrite
/-!
# Single results

A query in a single-result mode asks for no more rows than tell its outcome.  `Query.expected` is the outcome by the
number of all its rows.  A source of rows that gives the first of them under a lower limit leads to this outcome:
`Query.single_results`.
-/

namespace Tabula

variable {α σ : Type} {answer : σ → (call : Call) → call.Answer × σ} {st : σ}

/-- what comes of some work if its calls are answered from a state on -/
def Work.outcome (w : Work (Outcome α)) (answer : σ → (call : Call) → call.Answer × σ) (st : σ) (r : Registry) :
    Outcome α :=
  (Dialogue.run answer st (w r)).1.1

theorem Work.outcome_bind {β : Type} (w : Work (Outcome α)) (f : Outcome α → Outcome β) (r : Registry) :
    (w >>= fun x => pure (f x) : Work (Outcome β)).outcome answer st r = f (w.outcome answer st r) := by
  rw [outcome, Work.run_bind]
  rfl

/-! ## Selections with another limit -/

/-- the selection with its own limit or a lower one -/
def Selection.atMost (s : Selection) (n : Nat) : Selection :=
  { s with limit := some ((s.limit.map fun l => min l n).getD n) }

namespace Model

/-- the rows that a database gives for a selection -/
def rowsFrom (m : Model) (on : Database) (active : Active) (answer : σ → (call : Call) → call.Answer × σ) (st : σ)
    (s : Selection) : Outcome (List Row) :=
  (m.select s).bind fun c => (answer st (.query on (on.pinned active) c.text c.parameters)).1

end Model

namespace Query

variable {q : Query} {db : Database} {r : Registry} {active : Active}

/-! ## What is fetched -/

/-- what is fetched is what the database gives, read as instances -/
theorem outcome_fetch (serves : r.Serves q.entity db) (own : db.name = q.databaseName) (s : Selection) :
    (q.fetch active s).outcome answer st r =
      (q.entity.model.rowsFrom db active answer st s).bind (q.decoded db) := by
  obtain ⟨m, after, isFor, runs⟩ := serves.onMapper
  rw [own] at runs
  rw [Work.outcome, fetch, runs, Dialogue.run_bind, Mapper.select, isFor.model, decode_eq isFor, Model.rowsFrom]
  cases q.entity.model.select s with
  | error e => rfl
  | ok c =>
    rw [Mapper.run, isFor.database]
    rfl

theorem outcome_fetchAll (q : Query) (active : Active) (r : Registry) : (q.fetchAll active).outcome answer st r =
    ((q.fetch active q.capped).outcome answer st r).bind q.results :=
  Work.outcome_bind _ _ r

theorem outcome_fetchOne (q : Query) (active : Active) (r : Registry) : (q.fetchOne active).outcome answer st r =
    ((q.expectingOne.fetch active q.expectingOne.capped).outcome answer st r).bind q.expectingOne.one :=
  Work.outcome_bind _ _ r

theorem outcome_fetchOptional (q : Query) (active : Active) (r : Registry) :
    (q.fetchOptional active).outcome answer st r =
      ((q.first.fetch active q.first.capped).outcome answer st r).bind q.first.single :=
  Work.outcome_bind _ _ r

/-- whether a database is a source of rows for a query: under a lower limit it gives the first rows of those that it
gives without, and all of these can be read -/
structure SourcedBy (q : Query) (on : Database) (active : Active) (answer : σ → (call : Call) → call.Answer × σ)
    (st : σ) : Prop where
  first : ∀ n ∈ [1, 2], q.entity.model.rowsFrom on active answer st (q.selection.atMost n) =
    (q.entity.model.rowsFrom on active answer st q.selection).map (List.take n)
  read : ∀ rows, q.entity.model.rowsFrom on active answer st q.selection = .ok rows →
    ∃ found, q.decoded on rows = .ok found

theorem decoded_take {rows : List Row} {found : List Instance} (h : q.decoded db rows = .ok found) (n : Nat) :
    q.decoded db (rows.take n) = .ok (found.take n) :=
  Outcome.mapM_ok.mpr (List.forall₂_take n (Outcome.mapM_ok.mp h))

/-- under a lower limit the first instances are fetched -/
theorem SourcedBy.outcome_fetch (sourced : q.SourcedBy db active answer st) (serves : r.Serves q.entity db)
    (own : db.name = q.databaseName) {n : Nat} (hn : n ∈ [1, 2]) :
    (q.fetch active (q.selection.atMost n)).outcome answer st r =
      ((q.fetch active q.selection).outcome answer st r).map (List.take n) := by
  rw [Query.outcome_fetch serves own, Query.outcome_fetch serves own, sourced.first n hn]
  cases given : q.entity.model.rowsFrom db active answer st q.selection with
  | error e => rfl
  | ok rows =>
    obtain ⟨found, read⟩ := sourced.read rows given
    change q.decoded db (rows.take n) = (q.decoded db rows).map (List.take n)
    rw [decoded_take read, read]
    rfl

/-! ## Modes -/

/-- what is expected of the number of rows -/
inductive Mode where
  | exactlyOne
  | first
  | atMostOne
  deriving DecidableEq

/-- the mode of a query; after `get` and `first` together, one row is expected at most -/
def mode? (q : Query) : Option Mode :=
  match q.exactlyOne, q.firstOnly with
  | true, false => some .exactlyOne
  | false, true => some .first
  | true, true => some .atMostOne
  | false, false => none

/-- the outcome of a mode by the number of all rows -/
def expected (q : Query) : Mode → List α → Outcome (Option α)
  | .exactlyOne, [] => .error q.noneFound
  | .first, [] | .atMostOne, [] => .ok none
  | _, [row] => .ok (some row)
  | .first, row :: _ :: _ => .ok (some row)
  | .exactlyOne, _ :: _ :: _ | .atMostOne, _ :: _ :: _ => .error q.severalFound

/-- the rows that a mode looks at -/
def Mode.cap : Mode → Nat
  | exactlyOne | atMostOne => 2
  | first => 1

theorem Mode.cap_mem (mode : Mode) : mode.cap ∈ [1, 2] := by
  cases mode <;> decide

/-- **The first rows tell as much as all.** -/
theorem expected_take (q : Query) (mode : Mode) (rows : List α) :
    q.expected mode (rows.take mode.cap) = q.expected mode rows := by
  match rows with
  | [] | [_] | _ :: _ :: _ => cases mode <;> rfl

theorem single_eq {mode : Mode} (h : q.mode? = some mode) (rows : List α) : q.single rows = q.expected mode rows := by
  unfold mode? at h
  unfold single
  match rows with
  | [] | [_] | _ :: _ :: _ =>
    cases one : q.exactlyOne <;> cases first : q.firstOnly <;> simp only [one, first] at h <;> cases h <;> rfl

theorem capped_eq {mode : Mode} (h : q.mode? = some mode) : q.capped = q.selection.atMost mode.cap := by
  unfold mode? at h
  unfold capped cap?
  cases one : q.exactlyOne <;> cases first : q.firstOnly <;> simp only [one, first] at h <;> cases h <;> rfl

/-- a query in a mode has the outcome that all its rows lead to -/
theorem SourcedBy.outcome_single (sourced : q.SourcedBy db active answer st) (serves : r.Serves q.entity db)
    (own : db.name = q.databaseName) {mode : Mode} (h : q.mode? = some mode) :
    ((q.fetch active q.capped).outcome answer st r).bind q.single =
      ((q.fetch active q.selection).outcome answer st r).bind (q.expected mode) := by
  rw [capped_eq h, sourced.outcome_fetch serves own mode.cap_mem]
  cases (q.fetch active q.selection).outcome answer st r with
  | error e => rfl
  | ok found => exact (single_eq h _).trans (expected_take q mode found)

/-- of exactly one row nothing else is made than this row -/
theorem map_some_one (q : Query) (rows : List α) : (q.expectingOne.one rows).map some = q.expectingOne.single rows := by
  match rows with
  | [] | [_] | _ :: _ :: _ => rfl

/-- **The cap of a single-result query does not change its outcome.**  Suppose that a source of rows gives the first of
them under a lower limit, and all of them can be read.  Then `fetchOne`, `fetchOptional`, and `fetchAll` in a
single-result mode have the outcome that the number of all rows within the query's own limit leads to.  If these rows
are not to be had, they fail with the same error. -/
theorem single_results (serves : r.Serves q.entity db) (own : db.name = q.databaseName)
    (sourced : q.SourcedBy db active answer st) :
    let all := (q.fetch active q.selection).outcome answer st r
    ((q.fetchOne active).outcome answer st r).map some = all.bind (q.expected .exactlyOne) ∧
      (q.fetchOptional active).outcome answer st r =
        all.bind (q.expected (if q.exactlyOne then .atMostOne else .first)) ∧
      ∀ mode, q.mode? = some mode →
        (q.fetchAll active).outcome answer st r = (all.bind (q.expected mode)).map Option.toList := by
  intro all
  refine ⟨?_, ?_, fun mode h => ?_⟩
  · have sourced' : q.expectingOne.SourcedBy db active answer st := ⟨sourced.first, sourced.read⟩
    have mode : q.expectingOne.mode? = some .exactlyOne := rfl
    have outcome := sourced'.outcome_single serves own mode
    have given : ((q.fetchOne active).outcome answer st r).map some =
        ((q.expectingOne.fetch active q.expectingOne.capped).outcome answer st r).bind q.expectingOne.single := by
      rw [outcome_fetchOne]
      cases (q.expectingOne.fetch active q.expectingOne.capped).outcome answer st r with
      | error e => rfl
      | ok rows => exact q.map_some_one rows
    exact given.trans outcome
  · have sourced' : q.first.SourcedBy db active answer st := ⟨sourced.first, sourced.read⟩
    have mode : q.first.mode? = some (if q.exactlyOne then .atMostOne else .first) := by
      cases one : q.exactlyOne <;> simp [mode?, Query.first, one]
    exact (outcome_fetchOptional q active r).trans (sourced'.outcome_single serves own mode)
  · have results : ∀ rows : List Instance, q.results rows = (q.single rows).map Option.toList := by
      intro rows
      have single : (q.exactlyOne || q.firstOnly) = true := by
        unfold mode? at h
        cases one : q.exactlyOne <;> cases first : q.firstOnly <;> simp_all
      rw [Query.results, single]
      rfl
    rw [outcome_fetchAll, ← sourced.outcome_single serves own h]
    cases (q.fetch active q.capped).outcome answer st r with
    | error e => rfl
    | ok rows => exact results rows

/-- two items as rows -/
def twoItems : List Row := [⟨["id", "size"], [.int 1, .int 2]⟩, ⟨["id", "size"], [.int 2, .int 5]⟩]

/-- a database with these items, that gives the first one under the limit 1 -/
def itemSource : Unit → (call : Call) → call.Answer × Unit
  | _, .query _ _ text _ =>
    (.ok (if text = "SELECT \"id\", \"size\" FROM \"item\" LIMIT 1" then twoItems.take 1 else twoItems), ())
  | _, call => Instance.withoutRows () call

theorem single_results_two :
    let q := (ofItems.limit 5).first
    let db : Database := ⟨defaultDatabase, 0⟩
    let r := Registry.ofDatabases [db]
    let one : Instance := ({
      entity := ofItems.entity
      values := [.int 1, .int 2]
      persisted := true
      database := some defaultDatabase } : Instance).synchronized
    q.SourcedBy db [] itemSource () ∧ (q.fetchOne []).outcome itemSource () r = .error q.severalFound ∧
      (q.fetchOptional []).outcome itemSource () r = .ok (some one) ∧
      (q.fetchAll []).outcome itemSource () r = .ok [one] := by
  intro q db r one
  let other : Instance := ({
    entity := ofItems.entity
    values := [.int 2, .int 5]
    persisted := true
    database := some defaultDatabase } : Instance).synchronized
  let text (n : Nat) : String :=
    ({ columns := ["id", "size"], table := "item", limit := some n } : Sql.Select).text
  have given (n : Nat) : q.entity.model.rowsFrom db [] itemSource () { limit := some n } =
      .ok (if text n = "SELECT \"id\", \"size\" FROM \"item\" LIMIT 1" then twoItems.take 1 else twoItems) := rfl
  have whole : q.entity.model.rowsFrom db [] itemSource () q.selection = .ok twoItems :=
    (given 5).trans (congrArg _ (if_neg (by decide +kernel)))
  have sourced : q.SourcedBy db [] itemSource () := by
    refine ⟨fun n hn => ?_, fun rows ok => ?_⟩
    · rw [whole]
      simp only [List.mem_cons, List.not_mem_nil, or_false] at hn
      rcases hn with rfl | rfl
      · exact (given 1).trans (congrArg _ (if_pos (by decide +kernel)))
      · exact (given 2).trans (congrArg _ (if_neg (by decide +kernel)))
    · rw [whole] at ok
      cases ok
      exact ⟨[one, other], rfl⟩
  have serves := Registry.serves_ofDatabases q.entity db
  have all : (q.fetch [] q.selection).outcome itemSource () r = .ok [one, other] := by
    rw [outcome_fetch serves rfl, whole]
    rfl
  obtain ⟨exactly, optional, fetched⟩ := single_results serves rfl sourced
  rw [all] at exactly optional fetched
  exact ⟨sourced, Outcome.map_error.mp exactly, optional, fetched .first rfl⟩

end Query

end Tabula
