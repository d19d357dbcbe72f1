import Tabula.Proofs.Database.RowCount
import Tabula.Proofs.Field.Storage
import Tabula.Proofs.Query.SingleResult
/-!
# Counting and fetching

A count leaves out the order of a selection, and its window if there is none.  Still it is the number of the rows that
are fetched: `Model.counts_selected`.  Whether there is any row is asked under a limit of one row in place of the
query's own: `Query.any_agrees`.
-/

namespace Tabula

open Sql (Select Sense SortKey Statement)

/-! ## Statements that fetch and statements that count -/

namespace Model

variable {m : Model} {s : Selection} {rows : Sql.Restriction} {order : List SortKey} {ps : List Value} {c : Compiled}

theorem finished_error {b : Binding Statement} {e : Error} :
    finished b = .error e ↔ (b.runWith []).1 = .error e := by
  rw [finished, Outcome.map_error, Binding.collect]
  rcases b.runWith [] with ⟨_ | _, _⟩ <;> simp

/-- a limit changes nothing but the window -/
theorem selectRows_limit (m : Model) (s : Selection) (l : Option Nat) :
    m.selectRows { s with limit := l } = (fun t => { t with limit := l }) <$> m.selectRows s := by
  simp only [selectRows, map_bind, map_pure]

/-- another limit does not help a selection that does not compile -/
theorem select_limit_error (l : Option Nat) {e : Error} :
    m.select { s with limit := l } = .error e ↔ m.select s = .error e := by
  simp only [select, finished_error, Binding.runWith_map, Outcome.map_error, selectRows_limit]

/-- **What a count compiles to comes to one number, that of the rows that the selection gives.** -/
theorem count_counts (restricts : (m.restriction s.filters).runWith [] = (.ok rows, ps)) (order : List SortKey) :
    let select := m.selected s rows order
    ∃ t, m.count s = .ok ⟨t, ps⟩ ∧ ∀ {ρ δ : Type} (sense : Sense ρ δ) (contents : String → List ρ) (n : Nat),
      t.Counts sense ps contents n ↔ n = select.cut (select.size sense ps contents) := by
  intro select
  unfold count
  by_cases windowed : s.isWindowed = true
  · have unsorted : m.sortKeys [] = .ok [] := rfl
    refine ⟨.countOf (m.selected { s with ordering := [] } rows []), ?_, fun sense contents n => ?_⟩
    · rw [if_pos windowed]
      refine finished_of_runs ?_
      rw [Binding.runWith_map, selectRows_runs (s := { s with ordering := [] }) restricts unsorted]
      rfl
    · exact Statement.counts_countOf rfl
  · refine ⟨.count m.table rows, ?_, fun sense contents n => ?_⟩
    · rw [if_neg windowed]
      refine finished_of_runs ?_
      rw [Binding.runWith_map, restricts]
      rfl
    · -- without a window every row that passes is given
      have whole : select.cut (select.size sense ps contents) =
          ((contents m.table).filter (rows.keeps sense ps)).length := by
        simp only [Selection.isWindowed, Bool.or_eq_true, not_or, Bool.not_eq_true, Option.isSome_eq_false_iff,
          Option.isNone_iff_eq_none] at windowed
        obtain ⟨⟨limit, offset⟩, distinct⟩ := windowed
        simp only [select, Select.cut, Select.size, selected, limit, offset, distinct, Select.passing, Option.getD_none,
          Nat.sub_zero, Bool.false_eq_true, if_false]
      rw [Statement.counts_count, whole]

/-- **A count counts what is fetched.**  If the rows of a selection can be fetched, they can be counted.  Whatever the
tables hold and however the database reads conditions: the count comes to just one number, and this is the number of
the rows that are fetched, in whichever order they come and whichever of equal rows is taken. -/
theorem counts_selected {fetch : Compiled} (fetches : m.select s = .ok fetch) :
    ∃ (select : Select) (count : Compiled), fetch.statement = .select select ∧ m.count s = .ok count ∧
      ∀ {ρ δ : Type} (sense : Sense ρ δ) (contents : String → List ρ), ∃ n,
        (∀ k, count.statement.Counts sense count.parameters contents k ↔ k = n) ∧
        ∀ fetched, select.Gives sense fetch.parameters contents fetched → fetched.length = n := by
  obtain ⟨rows, order, restricts, _, same⟩ := select_iff.mp fetches
  obtain ⟨t, counts, number⟩ := count_counts restricts order
  refine ⟨m.selected s rows order, ⟨t, fetch.parameters⟩, congrArg Compiled.statement same, counts, ?_⟩
  intro ρ δ sense contents
  exact ⟨_, number sense contents, fun fetched gives => gives.length_eq⟩

/-- items with a size below 3, the first left out -/
def windowedItems : Selection where
  filters := [.condition "size__lt" (.int 3)]
  ordering := [⟨"size", false⟩]
  limit := some 5
  offset := some 1

theorem counts_selected_items :
    let contents : String → List (Int × Int) := fun _ => [(1, 2), (2, 5), (3, 1), (4, 0)]
    ∃ (select : Select) (count : Compiled), ofItems.select windowedItems = .ok ⟨.select select, [.int 3]⟩ ∧
      ofItems.count windowedItems = .ok count ∧
      select.Gives Query.numbers [.int 3] contents [(3, 1), (1, 2)] ∧
      ∀ k, count.statement.Counts Query.numbers count.parameters contents k ↔ k = 2 := by
  intro contents
  let rows : Sql.Restriction := some [.compare .less (.plain (.column "size")) (.plain (.parameter 1))]
  let select : Select := ofItems.selected windowedItems rows [⟨.column "size", false⟩]
  have fetches : ofItems.select windowedItems = .ok ⟨.select select, [.int 3]⟩ := rfl
  have gives : select.Gives Query.numbers [.int 3] contents (select.window [(4, 0), (3, 1), (1, 2)]) := by
    refine .stages rfl (by decide) fun keys hk => ?_
    cases hk
    decide
  obtain ⟨given, count, same, counts, number⟩ := counts_selected fetches
  cases same
  obtain ⟨n, unique, length⟩ := number Query.numbers contents
  obtain rfl : 2 = n := length _ gives
  exact ⟨select, count, fetches, counts, gives, unique⟩

end Model

/-! ## Fetching, counting and asking for any row -/

/-- whether a database answers a query by what its tables hold: `cells` shows a row, and a number comes as one cell -/
inductive Sql.Statement.Answered {ρ δ : Type} (sense : Sense ρ δ) (cells : ρ → List Value) (contents : String → List ρ)
    (ps : List Value) : Statement → Outcome (List Row) → Prop where
  | rows {s : Select} {result : List ρ} (gives : s.Gives sense ps contents result) :
    Answered sense cells contents ps (.select s) (.ok (result.map fun row => ⟨s.columns, cells row⟩))
  | number {t : Statement} {n : Nat} {i : Int64} (counts : t.Counts sense ps contents n) (same : i.toInt = n) :
    Answered sense cells contents ps t (.ok [⟨["count"], [.int i]⟩])

theorem Mapper.readCount_int (column : String) (i : Int64) :
    readCount [⟨[column], [.int i]⟩] = .ok i.toInt.toNat := by
  have fits : Value.toWord 64 (.int i) = .ok i := by rw [Value.toWord, if_pos (fitsSigned_toInt i)]
  change (Value.toWord 64 (.int i)).map _ = _
  rw [fits]
  rfl

namespace Query

variable {q : Query} {db : Database} {r : Registry} {active : Active} {ρ δ σ : Type} {sense : Sense ρ δ}
  {cells : ρ → List Value} {contents : String → List ρ} {answer : σ → (call : Call) → call.Answer × σ} {st : σ}

/-- whether a database answers what is asked for a query by what its tables hold, and its rows can be read -/
structure AnsweredBy (q : Query) (on : Database) (active : Active) (answer : σ → (call : Call) → call.Answer × σ)
    (st : σ) (sense : Sense ρ δ) (cells : ρ → List Value) (contents : String → List ρ) : Prop where
  statements : ∀ c : Compiled, q.entity.model.select q.selection = .ok c ∨
    q.entity.model.select (q.limit 1).selection = .ok c ∨ q.entity.model.count q.selection = .ok c →
      c.statement.Answered sense cells contents c.parameters
        (answer st (.query on (on.pinned active) c.text c.parameters)).1
  read : ∀ row ∈ contents q.entity.model.table, ∃ i, Instance.ofRow q.entity on.name (cells row) = .ok i

theorem outcome_count (serves : r.Serves q.entity db) (own : db.name = q.databaseName) {c : Compiled}
    (compiled : q.entity.model.count q.selection = .ok c) : (q.count active).outcome answer st r =
      (answer st (.query db (db.pinned active) c.text c.parameters)).1.bind Mapper.readCount := by
  obtain ⟨m, after, isFor, runs⟩ := serves.onMapper
  rw [own] at runs
  rw [Work.outcome, count, runs, Dialogue.run_bind, Mapper.count, isFor.model, compiled, Mapper.run, isFor.database]
  rfl

/-- the rows that a selection gives are read, each as one instance -/
theorem AnsweredBy.read_rows (answered : q.AnsweredBy db active answer st sense cells contents) {s : Select}
    (table : s.table = q.entity.model.table) {ps : List Value} {result : List ρ}
    (gives : s.Gives sense ps contents result) :
    ∃ found, q.decoded db (result.map fun row => ⟨s.columns, cells row⟩) = .ok found ∧
      found.length = result.length := by
  have each : ∀ row ∈ result.map fun row => (⟨s.columns, cells row⟩ : Row),
      ∃ i, Instance.ofRow q.entity db.name row.values = .ok i := by
    intro row hr
    obtain ⟨a, ha, rfl⟩ := List.mem_map.mp hr
    have stored : a ∈ contents s.table := List.mem_of_mem_filter (gives.subperm.subset ha)
    exact answered.read a (table ▸ stored)
  obtain ⟨found, read⟩ := Outcome.exists_mapM_ok.mpr each
  refine ⟨found, read, ?_⟩
  rw [← (Outcome.mapM_ok.mp read).length_eq, List.length_map]

/-- what is fetched for a selection has as many rows as there are in its window -/
theorem AnsweredBy.outcome_fetch (answered : q.AnsweredBy db active answer st sense cells contents)
    (serves : r.Serves q.entity db) (own : db.name = q.databaseName) {s : Selection} {select : Select} {ps : List Value}
    (compiled : q.entity.model.select s = .ok ⟨.select select, ps⟩) (table : select.table = q.entity.model.table)
    (asked : s = q.selection ∨ s = (q.limit 1).selection) :
    ∃ found, (q.fetch active s).outcome answer st r = .ok found ∧
      found.length = select.cut (select.size sense ps contents) := by
  have statement := answered.statements ⟨.select select, ps⟩ (by rcases asked with rfl | rfl <;> simp [compiled])
  rw [Query.outcome_fetch serves own, Model.rowsFrom, compiled]
  change ∃ found, ((answer st (.query db (db.pinned active) _ _)).1.bind (q.decoded db)) = .ok found ∧ _
  generalize (answer st (.query db (db.pinned active) _ _)).1 = given at statement ⊢
  cases statement with
  | rows gives =>
    obtain ⟨found, read, length⟩ := answered.read_rows table gives
    exact ⟨found, read, length.trans gives.length_eq⟩
  | number counts => cases counts

/-- what is counted is the number that the statement comes to -/
theorem AnsweredBy.outcome_count (answered : q.AnsweredBy db active answer st sense cells contents)
    (serves : r.Serves q.entity db) (own : db.name = q.databaseName) {t : Statement} {ps : List Value}
    (compiled : q.entity.model.count q.selection = .ok ⟨t, ps⟩) {k : Nat}
    (number : ∀ n, t.Counts sense ps contents n ↔ n = k) : (q.count active).outcome answer st r = .ok k := by
  have statement := answered.statements ⟨t, ps⟩ (.inr (.inr compiled))
  rw [Query.outcome_count serves own compiled]
  generalize (answer st (.query db (db.pinned active) _ _)).1 = given at statement ⊢
  cases statement with
  | rows gives => exact absurd ((number k).mpr rfl) nofun
  | @number _ n i counts same =>
    obtain rfl := (number n).mp counts
    exact (Mapper.readCount_int "count" i).trans (by rw [same, Int.toNat_natCast])

theorem outcome_fetchAll_of_many (many : q.cap? = none) (active : Active) (r : Registry) :
    (q.fetchAll active).outcome answer st r = (q.fetch active q.selection).outcome answer st r := by
  have whole : q.capped = q.selection := by rw [capped, many]
  rw [outcome_fetchAll, whole]
  cases (q.fetch active q.selection).outcome answer st r with
  | error e => rfl
  | ok rows => exact results_of_many many rows

theorem outcome_any (q : Query) (active : Active) (r : Registry) : (q.any active).outcome answer st r =
    ((q.fetch active (q.limit 1).selection).outcome answer st r).map fun rows => !rows.isEmpty :=
  Work.outcome_bind _ _ r

/-- **Asking for any row agrees with counting and with fetching, unless the limit is zero.**  Suppose that a database
answers by what its tables hold, whatever that is and however it reads conditions, and that the rows can be read.  Then
as many rows are counted as are fetched.  There is said to be a row just if the offset leaves one, whatever the limit
of the query: that is right unless the limit is zero.  If the rows cannot be asked for, fetching them and asking for any
fail with the same error. -/
theorem any_agrees (serves : r.Serves q.entity db) (own : db.name = q.databaseName) (many : q.cap? = none)
    (answered : q.AnsweredBy db active answer st sense cells contents) :
    (∀ e, q.entity.model.select q.selection = .error e →
      (q.fetchAll active).outcome answer st r = .error e ∧ (q.any active).outcome answer st r = .error e) ∧
    ∀ s ps, q.entity.model.select q.selection = .ok ⟨.select s, ps⟩ →
      ∃ fetched found, (q.fetchAll active).outcome answer st r = .ok fetched ∧
        (q.count active).outcome answer st r = .ok fetched.length ∧ (q.any active).outcome answer st r = .ok found ∧
        (found = true ↔ s.offset.getD 0 < s.size sense ps contents) ∧
        (q.selection.limit ≠ some 0 → (found = true ↔ 0 < fetched.length)) := by
  rw [outcome_fetchAll_of_many many, outcome_any]
  constructor
  · intro e fails
    have fails' : q.entity.model.select (q.limit 1).selection = .error e :=
      (Model.select_limit_error (some 1)).mpr fails
    rw [outcome_fetch serves own, outcome_fetch serves own, Model.rowsFrom, Model.rowsFrom, fails, fails']
    exact ⟨rfl, rfl⟩
  · intro s ps compiled
    obtain ⟨rows, order, restricts, sorts, same⟩ := Model.select_iff.mp compiled
    injection same with same _
    injection same with same
    subst same
    -- whether there is any row is asked with the same restriction and offset, cut after one row
    let head : Select := q.entity.model.selected (q.limit 1).selection rows order
    have compiled' : q.entity.model.select (q.limit 1).selection = .ok ⟨.select head, ps⟩ :=
      Model.select_iff.mpr ⟨rows, order, restricts, sorts, rfl⟩
    obtain ⟨t, counts, number⟩ := Model.count_counts restricts order
    obtain ⟨fetched, fetches, length⟩ := answered.outcome_fetch serves own compiled rfl (.inl rfl)
    obtain ⟨some, finds, few⟩ := answered.outcome_fetch serves own compiled' rfl (.inr rfl)
    have counted := answered.outcome_count serves own counts (number sense contents)
    rw [← length] at counted
    have any : (!some.isEmpty) = true ↔ 0 < some.length := by
      rw [Bool.not_eq_true', List.isEmpty_eq_false_iff, List.length_pos_iff]
    have one : head.limit ≠ .some 0 := fun none => Nat.one_ne_zero (Option.some.inj none)
    rw [finds]
    refine ⟨fetched, !some.isEmpty, fetches, counted, rfl, ?_, fun limited => ?_⟩
    · rw [any, few, Select.cut_pos]
      exact and_iff_right one
    · rw [any, few, length, Select.cut_pos, Select.cut_pos]
      exact and_congr_left fun _ => iff_of_true one limited

/-- two items -/
def sizedItems : List (Int × Int) := [(1, 2), (2, 5)]

/-- the cells of an item -/
def itemCells (item : Int × Int) : List Value := [.int (.ofInt item.1), .int (.ofInt item.2)]

/-- a window of items -/
def itemWindow (limit offset : Option Nat) : Select := { columns := ["id", "size"], table := "item", limit, offset }

/-- the rows in a window of the two items -/
def itemRows (limit offset : Option Nat) : List Row :=
  ((itemWindow limit offset).window sizedItems).map fun item => ⟨["id", "size"], itemCells item⟩

/-- a database with the two items that is asked for a window of them, for the first one there, and else for a number -/
def itemWindows (limit offset : Option Nat) (n : Int64) : Unit → (call : Call) → call.Answer × Unit
  | _, .query _ _ text _ =>
    (.ok (if text = (itemWindow limit offset).text then itemRows limit offset
      else if text = (itemWindow (some 1) offset).text then itemRows (some 1) offset
      else [⟨["count"], [.int n]⟩]), ())
  | _, call => Instance.withoutRows () call

theorem answeredBy_itemWindows {limit offset : Option Nat} {n : Int64}
    (windowed : (limit.isSome || offset.isSome) = true)
    (head : (itemWindow (some 1) offset).text ≠ (itemWindow limit offset).text)
    (count : (Statement.countOf (itemWindow limit offset)).text ≠ (itemWindow limit offset).text)
    (count' : (Statement.countOf (itemWindow limit offset)).text ≠ (itemWindow (some 1) offset).text)
    (number : n.toInt = ((itemWindow limit offset).window sizedItems).length) :
    ({ ofItems with selection := { limit, offset } } : Query).AnsweredBy db active (itemWindows limit offset n) ()
      numbers itemCells fun _ => sizedItems := by
  have gives (limit offset : Option Nat) : (itemWindow limit offset).Gives numbers [] (fun _ => sizedItems)
      ((itemWindow limit offset).window sizedItems) := .stages rfl (.refl sizedItems) nofun
  have answers (text : String) (rows : List Row)
      (h : (if text = (itemWindow limit offset).text then itemRows limit offset
        else if text = (itemWindow (some 1) offset).text then itemRows (some 1) offset
        else [⟨["count"], [.int n]⟩]) = rows) :
      (itemWindows limit offset n () (.query db (db.pinned active) text [])).1 = .ok rows := congrArg Except.ok h
  constructor
  · rintro c (h | h | h)
    · have same : ofItems.entity.model.select { limit, offset } = .ok ⟨.select (itemWindow limit offset), []⟩ := rfl
      cases h.symm.trans same
      exact (answers _ _ (if_pos rfl)).symm ▸ .rows (gives limit offset)
    · have same : ofItems.entity.model.select { limit := some 1, offset } =
          .ok ⟨.select (itemWindow (some 1) offset), []⟩ := rfl
      cases h.symm.trans same
      exact (answers _ _ ((if_neg head).trans (if_pos rfl))).symm ▸ .rows (gives (some 1) offset)
    · have same : ofItems.entity.model.count { limit, offset } = .ok ⟨.countOf (itemWindow limit offset), []⟩ := by
        rw [Model.count, if_pos (by rw [Selection.isWindowed, windowed, Bool.true_or])]
        rfl
      cases h.symm.trans same
      exact (answers _ _ ((if_neg count).trans (if_neg count'))).symm ▸ .number (.given (gives limit offset)) number
  · intro item stored
    obtain rfl | rfl : item = (1, 2) ∨ item = (2, 5) := by simpa [sizedItems] using stored
    · exact ⟨_, rfl⟩
    · exact ⟨_, rfl⟩

/-- of two items the first is left out -/
theorem any_agrees_offset :
    let q := ofItems.offset 1
    let db : Database := ⟨defaultDatabase, 0⟩
    let r := Registry.ofDatabases [db]
    let answer := itemWindows none (some 1) 1
    q.AnsweredBy db [] answer () numbers itemCells (fun _ => sizedItems) ∧
      ∃ fetched, (q.fetchAll []).outcome answer () r = .ok fetched ∧ 0 < fetched.length ∧
        (q.count []).outcome answer () r = .ok fetched.length ∧ (q.any []).outcome answer () r = .ok true := by
  intro q db r answer
  have answered : q.AnsweredBy db [] answer () numbers itemCells (fun _ => sizedItems) :=
    answeredBy_itemWindows rfl (by decide +kernel) (by decide +kernel) (by decide +kernel) (by decide)
  have compiled : q.entity.model.select q.selection = .ok ⟨.select (itemWindow none (some 1)), []⟩ := rfl
  obtain ⟨fetched, found, fetches, counts, finds, any, agrees⟩ :=
    (any_agrees (Registry.serves_ofDatabases q.entity db) rfl rfl answered).2 _ _ compiled
  have size : (itemWindow none (some 1)).size numbers [] (fun _ => sizedItems) = 2 := rfl
  obtain rfl : found = true := any.mpr (by rw [size]; decide)
  exact ⟨answered, fetched, fetches, (agrees (nomatch ·)).mp rfl, counts, finds⟩

/-- **Under the limit zero nothing is fetched and nothing is counted, but there is said to be a row.** -/
theorem any_despite_limit :
    let q := ofItems.limit 0
    let db : Database := ⟨defaultDatabase, 0⟩
    let r := Registry.ofDatabases [db]
    let answer := itemWindows (some 0) none 0
    q.cap? = none ∧ q.AnsweredBy db [] answer () numbers itemCells (fun _ => sizedItems) ∧
      (q.fetchAll []).outcome answer () r = .ok [] ∧ (q.count []).outcome answer () r = .ok 0 ∧
      (q.any []).outcome answer () r = .ok true := by
  intro q db r answer
  have serves := Registry.serves_ofDatabases q.entity db
  have answered : q.AnsweredBy db [] answer () numbers itemCells (fun _ => sizedItems) :=
    answeredBy_itemWindows rfl (by decide +kernel) (by decide +kernel) (by decide +kernel) (by decide)
  have whole : q.entity.model.select q.selection = .ok ⟨.select (itemWindow (some 0) none), []⟩ := rfl
  have head : q.entity.model.select (q.limit 1).selection = .ok ⟨.select (itemWindow (some 1) none), []⟩ := rfl
  have count : q.entity.model.count q.selection = .ok ⟨.countOf (itemWindow (some 0) none), []⟩ := rfl
  obtain ⟨fetched, fetches, none⟩ := answered.outcome_fetch serves rfl whole rfl (.inl rfl)
  obtain ⟨found, finds, one⟩ := answered.outcome_fetch serves rfl head rfl (.inr rfl)
  obtain ⟨i, rfl⟩ : ∃ i, found = [i] := List.length_eq_one_iff.mp one
  obtain rfl : fetched = [] := List.length_eq_zero_iff.mp none
  refine ⟨rfl, answered, (outcome_fetchAll_of_many rfl [] r).trans fetches, ?_, ?_⟩
  · exact answered.outcome_count serves rfl count fun n => Statement.counts_countOf rfl
  · rw [outcome_any, finds]
    rfl

end Query

end Tabula
