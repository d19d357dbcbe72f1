import Tabula.Proofs.Query.Parameters
import Tabula.Proofs.Query.Renumbering
import Tabula.Proofs.Registry
import Tabula.Query.Manager
/-!
# Writing to many rows

The rows that a query deletes or updates, beside those that it fetches.  All of them have the same restriction, but a
deletion and an update have no window.
-/

namespace Tabula

open Sql (Select Sense SortKey Statement keyOrder)

/-! ## The three statements -/

namespace Model

variable {m : Model} {s : Selection} {fs : List Filter} {rows : Sql.Restriction} {order : List SortKey}
  {ps : List Value} {c : Compiled}

theorem finished_of_runs {b : Binding Statement} {s : Statement} (h : b.runWith [] = (.ok s, ps)) :
    finished b = .ok ⟨s, ps⟩ := by
  rw [finished, Binding.collect, h]
  rfl

/-- columns are set to the next parameters -/
theorem assign_runs (m : Model) (sets : List (Nat × Value)) (ps : List Value) :
    ∃ assigned, (m.assign sets).runWith ps = (.ok assigned, ps ++ sets.map Prod.snd) := by
  induction sets generalizing ps with
  | nil => exact ⟨[], by rw [List.map_nil, List.append_nil]; rfl⟩
  | cons a rest ih =>
    obtain ⟨assigned, runs⟩ := ih (ps ++ [a.2])
    refine ⟨(m.column a.1, ps.length + 1) :: assigned, ?_⟩
    simp only [assign, Binding.runWith_seq, Binding.runWith_bind_value, runs, Binding.runWith_pure, List.append_assoc,
      List.map_cons, List.singleton_append]

/-- the rows of a restriction in the order of sort keys, cut as a selection says -/
def selected (m : Model) (s : Selection) (rows : Sql.Restriction) (order : List SortKey) : Select where
  distinct := s.distinct
  columns := m.columns
  table := m.table
  rows := rows
  order := if s.ordering.isEmpty then none else some order
  limit := s.limit
  offset := s.offset

theorem selectRows_runs (restricts : (m.restriction s.filters).runWith [] = (.ok rows, ps))
    (sorts : m.sortKeys s.ordering = .ok order) :
    (m.selectRows s).runWith [] = (.ok (m.selected s rows order), ps) := by
  simp only [selectRows, Binding.runWith_seq, restricts, Binding.runWith_lift, sorts, Binding.runWith_pure]
  rfl

/-- what a selection takes to compile, and what it compiles to -/
theorem select_iff : m.select s = .ok c ↔ ∃ rows order,
    (m.restriction s.filters).runWith [] = (.ok rows, c.parameters) ∧ m.sortKeys s.ordering = .ok order ∧
      c = ⟨.select (m.selected s rows order), c.parameters⟩ := by
  constructor
  · intro h
    obtain ⟨select, hs, hc⟩ := Binding.runWith_map_ok (finished_ok h)
    obtain ⟨rows, rs, restricts, hs⟩ := Binding.runWith_seq_ok hs
    obtain ⟨order, ss, sorts, hs⟩ := Binding.runWith_seq_ok hs
    rw [Binding.runWith_lift, Prod.mk.injEq] at sorts
    obtain ⟨sorts, rfl⟩ := sorts
    simp only [Binding.runWith_pure, Prod.mk.injEq, Except.ok.injEq] at hs
    obtain ⟨rfl, rfl⟩ := hs
    refine ⟨rows, order, restricts, sorts, ?_⟩
    rw [selected, hc]
  · rintro ⟨rows, order, restricts, sorts, same⟩
    rw [same]
    refine finished_of_runs ?_
    rw [Binding.runWith_map, selectRows_runs restricts sorts]
    rfl

/-- a selection has the restriction and the window of what is asked for -/
theorem select_ok (h : m.select s = .ok c) :
    ∃ select : Select, c.statement = .select select ∧
      (m.restriction s.filters).runWith [] = (.ok select.rows, c.parameters) ∧ select.table = m.table ∧
      select.distinct = s.distinct ∧ select.limit = s.limit ∧ select.offset = s.offset := by
  obtain ⟨rows, order, restricts, _, same⟩ := select_iff.mp h
  exact ⟨m.selected s rows order, congrArg Compiled.statement same, restricts, rfl, rfl, rfl, rfl⟩

theorem deleteWhere_ok (h : (m.restriction fs).runWith [] = (.ok rows, ps)) :
    m.deleteWhere fs = .ok ⟨.delete m.table rows, ps⟩ := by
  refine finished_of_runs ?_
  rw [Binding.runWith_map, h]
  rfl

/-- an update has the restriction of a deletion, behind the new values -/
theorem updateWhere_ok (h : (m.restriction fs).runWith [] = (.ok rows, ps)) {sets : List (Nat × Value)}
    (some : sets ≠ []) : ∃ assigned, m.updateWhere sets fs =
      .ok ⟨.update m.table assigned (rows.moved (sets.map Prod.snd).length), sets.map Prod.snd ++ ps⟩ := by
  obtain ⟨assigned, runs⟩ := m.assign_runs sets []
  have moved := m.renumbers_restriction fs (sets.map Prod.snd) []
  rw [List.append_nil, h] at moved
  refine ⟨assigned, ?_⟩
  rw [updateWhere, if_neg (by simpa using some)]
  refine finished_of_runs ?_
  rw [Binding.runWith_seq, runs]
  simp only [List.nil_append, Binding.runWith_seq, moved, Binding.behind, Except.map, Binding.runWith_pure]

/-- **An update changes the rows that a deletion removes.** -/
theorem touched_moved {ρ δ : Type} (sense : Sense ρ δ) (contents : String → List ρ) (table : String)
    (assigned : List (String × Nat)) (rows : Sql.Restriction) (values ps : List Value) :
    (Statement.update table assigned (rows.moved values.length)).touched sense (values ++ ps) contents =
      (Statement.delete table rows).touched sense ps contents :=
  List.filter_congr fun row _ => Sql.Restriction.keeps_moved sense values ps row rows

end Model

/-! ## What a query sends -/

variable {q : Query} {db : Database} {r : Registry} {active : Active}

namespace Query

theorem results_of_many {α : Type} (many : q.cap? = none) (rows : List α) : q.results rows = .ok rows := by
  unfold cap? at many
  unfold results
  cases single : q.exactlyOne <;> cases first : q.firstOnly <;> simp_all

/-- the instances that fetched rows stand for -/
def decoded (q : Query) (db : Database) (rows : List Row) : Outcome (List Instance) :=
  rows.mapM fun row => Instance.ofRow q.entity db.name row.values

theorem decode_eq {m : Mapper} (isFor : m.IsFor q.entity db) : m.decode = q.decoded db := by
  funext rows
  rw [Mapper.decode, isFor.entity, isFor.database, decoded]

variable {m : Mapper} {after : Registry} (isFor : m.IsFor q.entity db)
  (runs : ∀ {α : Type} (f : Mapper → Talk (Outcome α)),
    Registry.onMapper q.entity q.databaseName f r = (do return (← f m, after)))

include isFor runs

theorem fetchAll_eq (many : q.cap? = none) {c : Compiled} (compiled : q.entity.model.select q.selection = .ok c) :
    q.fetchAll active r = (do
      let answer ← db.query active c.text c.parameters
      return (answer.bind (q.decoded db), after)) := by
  have whole : q.capped = q.selection := by rw [capped, many]
  have selects : m.select active q.selection = (do
      return (← db.query active c.text c.parameters).bind (q.decoded db)) := by
    rw [Mapper.select, isFor.model, compiled, Mapper.run, isFor.database, decode_eq isFor]
  have all : ∀ answer : Outcome (List Instance), answer.bind q.results = answer := by
    intro answer
    cases answer with
    | ok rows => exact results_of_many many rows
    | error err => rfl
  calc q.fetchAll active r
    _ = (do
        let (answer, r') ← Registry.onMapper q.entity q.databaseName (fun m => m.select active q.capped) r
        return (answer.bind q.results, r')) := rfl
    _ = _ := by simp only [runs, whole, selects, bind_assoc, pure_bind, all]

theorem delete_eq {c : Compiled} (compiled : q.entity.model.deleteWhere q.selection.filters = .ok c) :
    q.delete active r = (do return (← db.execute active c.text c.parameters, after)) := by
  rw [delete, runs, Mapper.deleteWhere, isFor.model, compiled, Mapper.runCounting, isFor.database]

theorem update_eq {values : List (String × Value)} {sets : List (Nat × Value)} {c : Compiled}
    (assigned : Mapper.assignments q.entity values = .ok sets)
    (compiled : q.entity.model.updateWhere sets q.selection.filters = .ok c) :
    q.update active values r = (do return (← db.execute active c.text c.parameters, after)) := by
  rw [update, runs, Mapper.updateWhere, isFor.model, isFor.entity, assigned]
  change (do return (← m.runCounting active (q.entity.model.updateWhere sets q.selection.filters), after)) = _
  rw [compiled, Mapper.runCounting, isFor.database]

omit isFor runs

/-- **Deletions and updates touch every row of the restriction; what is fetched lies in the window.**  Suppose that the
rows of a query can be fetched.  Then they can be deleted and updated, each by one statement.  Whatever the tables hold
and however the database reads conditions, the rows deleted are those of the restriction, and an update changes the same
ones.  No others are fetched, and all of them just if limit and offset leave out none; if duplicates are dropped, that
takes rows that are different. -/
theorem bulk_writes (active : Active) (serves : r.Serves q.entity db) (own : db.name = q.databaseName)
    (many : q.cap? = none) {fetch : Compiled} (compiled : q.entity.model.select q.selection = .ok fetch) :
    ∃ (s : Select) (delete : Statement) (ps : List Value) (after : Registry),
      q.fetchAll active r = (do
        let answer ← db.query active (Statement.select s).text ps
        return (answer.bind (q.decoded db), after)) ∧
      q.delete active r = (do return (← db.execute active delete.text ps, after)) ∧
      (∀ values sets, Mapper.assignments q.entity values = .ok sets → sets ≠ [] →
        ∃ (update : Statement) (qs : List Value),
          q.update active values r = (do return (← db.execute active update.text qs, after)) ∧
          ∀ {ρ δ : Type} (sense : Sense ρ δ) (contents : String → List ρ),
            update.touched sense qs contents = delete.touched sense ps contents) ∧
      ∀ {ρ δ : Type} (sense : Sense ρ δ) (contents : String → List ρ) (gone : List ρ),
        delete.touched sense ps contents = gone → gone = s.passing sense ps contents ∧
          ∀ fetched, s.Gives sense ps contents fetched → fetched.Subperm gone ∧
            ((q.selection.distinct = true → gone.Pairwise fun a b => ¬s.Alike sense a b) →
              (fetched.Perm gone ↔ gone = [] ∨ q.selection.offset.getD 0 = 0 ∧
                ∀ n, q.selection.limit = some n → gone.length ≤ n)) := by
  obtain ⟨s, statement, restricts, table, distinct, limit, offset⟩ := Model.select_ok compiled
  obtain ⟨m, after, isFor, runs⟩ := serves.onMapper
  rw [own] at runs
  refine ⟨s, .delete q.entity.model.table s.rows, fetch.parameters, after, ?_, ?_, ?_, ?_⟩
  · rw [fetchAll_eq isFor runs many compiled, Compiled.text, statement]
  · exact delete_eq isFor runs (Model.deleteWhere_ok restricts)
  · intro values sets assigned nonempty
    obtain ⟨columns, updates⟩ := Model.updateWhere_ok restricts nonempty
    exact ⟨_, _, update_eq isFor runs assigned updates, fun sense contents => Model.touched_moved ..⟩
  · rintro ρ δ sense contents gone rfl
    have same : (Statement.delete q.entity.model.table s.rows).touched sense fetch.parameters contents =
        s.passing sense fetch.parameters contents := by
      rw [Select.passing, table]
      rfl
    rw [same, ← distinct, ← limit, ← offset]
    refine ⟨rfl, fun fetched gives => ⟨gives.subperm, fun apart => ?_⟩⟩
    rw [gives.perm_iff apart, Select.Spares, List.length_eq_zero_iff]

/-- items as pairs of id and size, read as numbers -/
def numbers : Sense (Int × Int) (Option Int) where
  column row name := if name = "id" then some row.1 else if name = "size" then some row.2 else none
  path d _ := d
  pathText d _ := d
  parameter v :=
    match v with
    | some (.int i) => some i.toInt
    | _ => none
  upper d := d
  compare op a b :=
    match op, a, b with
    | .equal, some a, some b => .ofBool (a = b)
    | .less, some a, some b => .ofBool (a < b)
    | _, _, _ => .unknown
  among _ _ := .unknown
  isNull d := d.isNone
  order a b := compareOfLessAndEq (a.getD 0) (b.getD 0)

/-- a query for every item -/
def ofItems : Query := { entity := ⟨0, Model.ofItems⟩ }

theorem bulk_writes_small :
    let q := (ofItems.filter (.condition "size__lt" (.int 3))).orderBy ["-id"]
    let db : Database := ⟨defaultDatabase, 0⟩
    let r := Registry.ofDatabases [db]
    let contents : String → List (Int × Int) := fun _ => [(1, 2), (2, 5), (3, 1)]
    ∃ (s : Select) (delete : Statement) (ps : List Value) (after : Registry),
      q.fetchAll [] r = (do
        let answer ← db.query [] (Statement.select s).text ps
        return (answer.bind (q.decoded db), after)) ∧
      q.delete [] r = (do return (← db.execute [] delete.text ps, after)) ∧
      ∀ fetched, s.Gives numbers ps contents fetched → fetched.Perm (delete.touched numbers ps contents) := by
  intro q db r contents
  have compiles : (q.entity.model.select q.selection).toOption.isSome = true := by decide +kernel
  match compiled : q.entity.model.select q.selection with
  | .error err =>
    rw [compiled] at compiles
    cases compiles
  | .ok fetch =>
    obtain ⟨s, delete, ps, after, fetches, deletes, -, rows⟩ :=
      bulk_writes [] (Registry.serves_ofDatabases q.entity db) rfl rfl compiled
    refine ⟨s, delete, ps, after, fetches, deletes, fun fetched gives => ?_⟩
    have agrees := ((rows numbers contents _ rfl).2 fetched gives).2 fun distinct => (nomatch distinct)
    exact agrees.mpr (.inr ⟨rfl, fun n limited => (nomatch limited)⟩)

/-- of two items the first is fetched, but both are deleted -/
theorem bulk_writes_beyond_window :
    let q := (ofItems.orderBy ["id"]).limit 1
    let db : Database := ⟨defaultDatabase, 0⟩
    let r := Registry.ofDatabases [db]
    let s : Select := {
      columns := ["id", "size"]
      table := "item"
      order := some [⟨.column "id", false⟩]
      limit := some 1 }
    let delete : Statement := .delete "item" none
    let contents : String → List (Int × Int) := fun _ => [(1, 2), (2, 5)]
    (∃ after, q.fetchAll [] r = (do
        let answer ← db.query [] (Statement.select s).text []
        return (answer.bind (q.decoded db), after)) ∧
      q.delete [] r = (do return (← db.execute [] delete.text [], after))) ∧
    (∀ fetched, s.Gives numbers [] contents fetched ↔ fetched = [(1, 2)]) ∧
    delete.touched numbers [] contents = [(1, 2), (2, 5)] := by
  intro q db r s delete contents
  obtain ⟨m, after, isFor, runs⟩ := (Registry.serves_ofDatabases q.entity db).onMapper
  have selects : q.entity.model.select q.selection = .ok ⟨.select s, []⟩ := rfl
  have deletes : q.entity.model.deleteWhere q.selection.filters = .ok ⟨delete, []⟩ := rfl
  refine ⟨⟨after, fetchAll_eq isFor runs rfl selects, delete_eq isFor runs deletes⟩, fun fetched => ?_, rfl⟩
  have sorted : List.Pairwise (fun a b => keyOrder numbers [] a b [⟨.column "id", false⟩] ≠ .gt)
      [((1, 2) : Int × Int), (2, 5)] := by decide
  constructor
  · rintro @⟨kept, rows, kinds, perm, order⟩
    obtain rfl : kept = [(1, 2), (2, 5)] := kinds
    have same : rows = [(1, 2), (2, 5)] := by
      refine perm.eq_of_pairwise (fun a b ha hb before after => ?_) (order _ rfl) sorted
      have ha := perm.mem_iff.mp ha
      simp only [List.mem_cons, List.not_mem_nil, or_false] at ha hb
      rcases ha with rfl | rfl <;> rcases hb with rfl | rfl
      · rfl
      · exact absurd rfl after
      · exact absurd rfl before
      · rfl
    rw [same]
    rfl
  · rintro rfl
    have gives : s.Gives numbers [] contents (s.window [(1, 2), (2, 5)]) := by
      refine .stages rfl (.refl _) fun keys hk => ?_
      cases hk
      exact sorted
    exact gives

end Query

end Tabula
