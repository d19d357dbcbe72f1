import Tabula.Proofs.Mapper.RowStatements
import Tabula.Proofs.Query.Typing
/-!
# Whatever a mapper binds can be bound

`Request.sent_bindable`: whatever a mapper is asked for, the parameters that it sends can be bound to the placeholders
of its statement, which the server takes to have the types of the columns in the table's definition.  The conversions
have refused all else.  A filter key has to find the field that stands in its column; it may not where two fields share
a name.
-/

namespace Tabula

open Postgres (Parameter.Encodes)
open Sql (Binds Condition Equation RowLayout)

/-! ## Parameters for fields -/

namespace Mapper

variable {e : Entity}

theorem encodes_parameter (sound : e.model.Sound) {p : Nat} (inside : p < e.model.fields.length) {v c : Value}
    (kept : v.isKept = true) (h : parameter e p v = .ok c) :
    ∃ t, e.model.serverType? (e.model.column p) = some t ∧ Parameter.Encodes t c := by
  have there := List.getElem?_eq_getElem inside
  have column : e.model.column p = e.model.fields[p].column := by simp [Model.column, there]
  have type := Model.serverType_of_mem sound.columns (List.getElem_mem inside)
  rw [parameter, there] at h
  exact ⟨_, column ▸ type, Postgres.Parameter.encodes_of_toStorage h kept⟩

/-- the new values of an update go to the columns of their fields -/
theorem encodes_assignments (sound : e.model.Sound) {values : List (String × Value)}
    (kept : ∀ nv ∈ values, nv.2.isKept = true) {sets : List (Nat × Value)} (h : assignments e values = .ok sets) :
    ∀ a ∈ sets, ∃ t, e.model.serverType? (e.model.column a.1) = some t ∧ Parameter.Encodes t a.2 := by
  intro a ha
  obtain ⟨⟨name, v⟩, hv, made⟩ := Outcome.exists_of_mem_mapM h ha
  obtain ⟨p, found, made⟩ := Outcome.bind_ok.mp made
  obtain ⟨c, stored, made⟩ := Outcome.bind_ok.mp made
  obtain rfl := Outcome.pure_ok.mp made
  exact encodes_parameter sound (Model.lt_of_position found) (kept _ hv) stored

end Mapper

/-! ## Row statements -/

namespace RowOperation

variable {e : Entity} {m : Model}

theorem expected_equations (columns : String → Option Postgres.ColumnType) (es : List Equation) :
    Sql.Restriction.expected columns (some (es.map Equation.condition)) = es.map fun e => (e.2, columns e.1) := by
  rw [Sql.Restriction.expected, Option.getD_some, List.flatMap_map, List.map_eq_flatMap]
  rfl

/-- a row statement expects the types of the columns that it shows, in their order -/
theorem expected_statement (op : RowOperation) (m : Model) :
    (op.statement m).expected m.serverType? = m.expectedOf (m.numbered 1 (op.positions m)) := by
  have inserted : m.insertRow.expected m.serverType? = m.expectedOf (m.numbered 1 m.insertPositions) := by
    simp [Model.insertRow, Sql.Statement.expected, Model.expectedOf, Model.numbered, List.zipIdx_map, Nat.add_comm]
  cases op with
  | insert i => exact inserted
  | insertAll instances => exact inserted
  | update i fields conditions =>
    rw [statement, Model.updateRow_eq, Sql.Statement.expected, expected_equations, positions, Model.numbered_update,
      Model.expectedOf, List.map_append]
  | delete i =>
    rw [statement, Model.deleteRow, Model.rowsEqual_eq, Sql.Statement.expected, expected_equations]
    rfl
  | load key =>
    rw [statement, Model.selectRow_eq, Sql.Statement.expected, Sql.Select.expected, expected_equations]
    exact List.append_nil _

/-- stored values beside their columns can be bound there -/
theorem Beside.binds (sound : e.model.Sound) {layout : RowLayout} {row : List (Nat × Value)} {parameters : List Value}
    (beside : Beside e layout row parameters) (kept : ∀ pv ∈ row, pv.2.isKept = true)
    (inside : ∀ p ∈ row.map Prod.fst, p < e.model.fields.length) :
    Binds 1 (e.model.expectedOf (e.model.numbered 1 (row.map Prod.fst))) parameters := by
  have length : (row.map Prod.fst).length = parameters.length := by rw [List.length_map, beside.count]
  have own : ∀ a ∈ (row.map Prod.fst).zip parameters,
      ∃ t, e.model.serverType? (e.model.column a.1) = some t ∧ Parameter.Encodes t a.2 := by
    intro a ha
    obtain ⟨n, hn⟩ := List.getElem?_of_mem ha
    obtain ⟨hp, hc⟩ := List.getElem?_zip_eq_some.mp hn
    rw [List.getElem?_map, Option.map_eq_some_iff] at hp
    obtain ⟨⟨p, v⟩, hrow, same⟩ := hp
    obtain ⟨f, c, hf, _, hc', stored⟩ := beside.beside n p v hrow
    have mem : (p, v) ∈ row := List.mem_of_getElem? hrow
    obtain rfl : c = a.2 := Option.some.inj (hc'.symm.trans hc)
    have converted : Mapper.parameter e p v = .ok a.2 := by rw [Mapper.parameter, hf]; exact stored
    rw [← same]
    exact Mapper.encodes_parameter sound (inside p (List.mem_map_of_mem mem)) (kept _ mem) converted
  have binds := Model.binds_numbered own 1
  rwa [List.map_fst_zip (Nat.le_of_eq length), List.map_snd_zip (Nat.le_of_eq length.symm)] at binds

end RowOperation

/-! ## Requests -/

/-- what a mapper can be asked for -/
inductive Request where
  | row (op : RowOperation)
  | select (s : Selection)
  | count (s : Selection)
  | explain (s : Selection)
  | updateWhere (values : List (String × Value)) (filters : List Filter)
  | deleteWhere (filters : List Filter)

namespace Request

/-- asks a mapper; what it gives is left out -/
def perform (active : Active) (m : Mapper) : Request → Talk (Outcome Unit)
  | row op => do return (← op.perform active m).1.map fun _ => ()
  | select s => do return (← m.select active s).map fun _ => ()
  | count s => do return (← m.count active s).map fun _ => ()
  | explain s => do return (← m.explain active s).map fun _ => ()
  | updateWhere values fs => do return (← m.updateWhere active values fs).map fun _ => ()
  | deleteWhere fs => do return (← m.deleteWhere active fs).map fun _ => ()

/-- the filters of a query -/
def filters : Request → List Filter
  | row _ => []
  | select s | count s | explain s => s.filters
  | updateWhere _ fs | deleteWhere fs => fs

/-- the values that a request is given beside its filters -/
def values (m : Model) : Request → List Value
  | row op => (op.bound m).flatMap fun row => row.map Prod.snd
  | updateWhere values _ => values.map Prod.snd
  | _ => []

/-- whether a request is about instances of an entity and positions of its fields -/
def IsOf (e : Entity) : Request → Prop
  | row op => op.IsOf e
  | _ => True

/-- whether a question is a statement whose placeholders are all typed, and has parameters that can be bound to them -/
def Bindable (m : Model) (on : Database) (active : Active) (question : Call) : Prop :=
  ∃ (statement : Sql.Statement) (rows : List (List Value)),
    question.statement? = some (on, on.pinned active, statement.text, rows) ∧
    Sql.placeholdersIn statement.text = some ((statement.expected m.serverType?).map Prod.fst) ∧
    ∀ row ∈ rows, Binds 1 (statement.expected m.serverType?) row

variable {e : Entity} {on : Database} {number : Nat} {used : List UpdateShape} {active : Active} {mapper : Mapper}
  {t : List (Dialogue.Exchange Call Call.Answer)} {x : Dialogue.Exchange Call Call.Answer}

theorem bindable_row (kept : mapper.Keeps e on number used) (sound : e.model.Sound) {op : RowOperation}
    (fits : op.IsOf e) (dates : ∀ row ∈ op.bound e.model, ∀ pv ∈ row, pv.2.isKept = true)
    {result : Outcome (List Instance)} {mapper' : Mapper} (said : (op.perform active mapper).Says t (result, mapper'))
    (hx : x ∈ t) : Bindable e.model on active x.question := by
  obtain ⟨rows, layout, question, shown, _, beside⟩ := ((RowOperation.told kept sound fits said).sent x hx).bound
  refine ⟨_, rows, question, Sql.Statement.placeholdersIn_text _ _, fun parameters hp => ?_⟩
  obtain ⟨n, hn⟩ := List.getElem?_of_mem hp
  obtain ⟨inRows, hn⟩ := List.getElem?_eq_some_iff.mp hn
  have inBound : n < (op.bound e.model).length := beside.length_eq ▸ inRows
  have pair := (List.forall₂_iff_get.mp beside).2 n inBound inRows
  simp only [List.get_eq_getElem, hn] at pair
  have mem := List.getElem_mem inBound
  have positions := RowOperation.fst_of_mem_bound mem
  rw [RowOperation.expected_statement, ← positions]
  exact pair.binds sound (dates _ mem) (positions ▸ RowOperation.lt_of_mem_positions sound fits)

/-- the question that a compiled query is sent with -/
theorem bindable_of_compiled {m : Model} {c : Compiled} (bindable : m.Bindable c) {question : Call}
    (asked : question.statement? = some (on, on.pinned active, c.text, [c.parameters])) :
    Bindable m on active question := by
  refine ⟨c.statement, [c.parameters], asked, Sql.Statement.placeholdersIn_text _ _, fun row hrow => ?_⟩
  obtain rfl := List.mem_singleton.mp hrow
  exact bindable

/-- a query asks one question if it compiles, and none otherwise -/
theorem bindable_run {α : Type} (database : mapper.database = on) {compiled : Outcome Compiled}
    {finish : List Row → Outcome α} {result : Outcome α} {m : Model}
    (bindable : ∀ c, compiled = .ok c → m.Bindable c)
    (said : (mapper.run active compiled finish).Says t result) (hx : x ∈ t) : Bindable m on active x.question := by
  cases compiled with
  | error err =>
    obtain ⟨rfl, _⟩ := Dialogue.says_pure.mp said
    cases hx
  | ok c =>
    obtain ⟨answer, rest, rfl, rest_said⟩ := Dialogue.says_ask.mp said
    obtain ⟨rfl, _⟩ := Dialogue.says_pure.mp rest_said
    obtain rfl := List.mem_singleton.mp hx
    exact bindable_of_compiled (bindable c rfl) (database ▸ rfl)

theorem bindable_runCounting (database : mapper.database = on) {compiled : Outcome Compiled} {result : Outcome Nat}
    {m : Model} (bindable : ∀ c, compiled = .ok c → m.Bindable c)
    (said : (mapper.runCounting active compiled).Says t result) (hx : x ∈ t) : Bindable m on active x.question := by
  cases compiled with
  | error err =>
    obtain ⟨rfl, _⟩ := Dialogue.says_pure.mp said
    cases hx
  | ok c =>
    obtain rfl := Dialogue.says_question.mp said
    obtain rfl := List.mem_singleton.mp hx
    exact bindable_of_compiled (bindable c rfl) (database ▸ rfl)

/-- **Whatever a mapper binds can be bound.**  A mapper that was made for an entity has done any row operations, with
any answers, and is asked for an operation on rows or a query.  Every question that it asks is a statement with
parameters: the placeholders of its text are those that are typed, and each parameter can be bound to its placeholder
with the type that the server infers from the table's definition.  The fields have distinct names, or at least the filter keys find
the fields of their columns, and dates are of the years that dates are kept for. -/
theorem sent_bindable {d : Draft} (built : d.build = .ok e.model) {ops : List RowOperation}
    (reached : RowOperation.Reaches { entity := e, database := on, number } ops mapper) {request : Request}
    (fits : request.IsOf e) (answers : e.model.Answers request.filters)
    (dates : ∀ v ∈ request.values e.model, v.isKept = true) {result : Outcome Unit}
    (said : (request.perform active mapper).Says t result) :
    ∀ x ∈ t, Bindable e.model on active x.question := by
  have sound := Draft.sound_of_build built
  have kept := reached.keeps
  intro x hx
  cases request with
  | row op =>
    obtain ⟨⟨answer, mapper'⟩, asked, _⟩ := Dialogue.says_bind_pure.mp said
    refine bindable_row kept sound fits (fun row hrow pv hpv => ?_) asked hx
    exact dates _ (List.mem_flatMap.mpr ⟨row, hrow, List.mem_map_of_mem hpv⟩)
  | select s =>
    obtain ⟨_, asked, _⟩ := Dialogue.says_bind_pure.mp said
    exact bindable_run kept.database (fun c hc => Model.bindable_select sound answers (kept.model ▸ hc)) asked hx
  | count s =>
    obtain ⟨_, asked, _⟩ := Dialogue.says_bind_pure.mp said
    exact bindable_run kept.database (fun c hc => Model.bindable_count sound answers (kept.model ▸ hc)) asked hx
  | explain s =>
    obtain ⟨_, asked, _⟩ := Dialogue.says_bind_pure.mp said
    exact bindable_run kept.database (fun c hc => Model.bindable_explain sound answers (kept.model ▸ hc)) asked hx
  | updateWhere values fs =>
    obtain ⟨_, asked, _⟩ := Dialogue.says_bind_pure.mp said
    refine bindable_runCounting kept.database (fun c hc => ?_) asked hx
    rw [kept.entity, kept.model] at hc
    obtain ⟨sets, assigned, hc⟩ := Outcome.bind_ok.mp hc
    have own := Mapper.encodes_assignments sound (fun nv hnv => dates _ (List.mem_map_of_mem hnv)) assigned
    exact Model.bindable_updateWhere sound answers own hc
  | deleteWhere fs =>
    obtain ⟨_, asked, _⟩ := Dialogue.says_bind_pure.mp said
    exact bindable_runCounting kept.database (fun c hc => Model.bindable_deleteWhere sound answers (kept.model ▸ hc))
      asked hx

/-- the definition of the items -/
def itemDraft : Draft where
  name := "Item"
  fields := Model.ofItems.fields

/-- sets the size of items that are neither small nor without a size -/
def resize : Request := .updateWhere [("size", .string "5")] Model.itemFilters

theorem sent_bindable_resize : ∃ t result,
    (resize.perform [] { entity := ⟨0, Model.ofItems⟩, database := RowOperation.desk, number := 0 }).Says t result ∧
    t.map (fun x => x.question.statement?) = [some (RowOperation.desk, none,
      "UPDATE \"item\" SET \"size\" = $1 WHERE NOT ((\"size\" < $2 OR \"size\" IS NULL)) AND " ++
        "((\"id\" <> $3 OR \"id\" IS NULL) AND (\"id\" <> $4 OR \"id\" IS NULL))",
      [[.int 5, .int 3, .int 7, .int 9]])] ∧
    ∀ x ∈ t, Bindable Model.ofItems RowOperation.desk [] x.question := by
  have built : itemDraft.build = .ok Model.ofItems := rfl
  have names : (Model.ofItems.fields.map Field.name).Nodup := by decide
  have answers : Model.ofItems.Answers resize.filters := ⟨fun p _ => Model.finds_of_nodup names p.1, by decide⟩
  have said := Dialogue.says_run Instance.withoutRows ()
    (resize.perform [] { entity := ⟨0, Model.ofItems⟩, database := RowOperation.desk, number := 0 })
  have fits : resize.IsOf ⟨0, Model.ofItems⟩ := trivial
  have bindable := sent_bindable built .nil fits answers (by decide) said
  exact ⟨_, _, said, rfl, bindable⟩

/-! ## Two fields of one name -/

/-- a parent with a numeric key, called `code` and kept in the column `id` -/
def numbered : Draft where
  name := "Numbered"
  fields := [{ (Field.new "code" .bigInt).asKey with column := "id" }]

/-- a parent with a text that is called `code` as well -/
def coded : Draft where
  name := "Coded"
  isAbstract := true
  fields := [Field.new "code" .text]

/-- a child of both, which has two fields called `code` -/
def numberedAndCoded (first second : Model) : Draft := Draft.inherit second (Draft.inherit first { name := "Child" })

/-- the number of a row is bound as a text, which a column of numbers does not take -/
theorem unbindable_numberedAndCoded : ∃ first second child c t result,
    numbered.build = .ok first ∧ coded.build = .ok second ∧ (numberedAndCoded first second).build = .ok child ∧
    child.select { filters := [.condition "pk" (.int 5)] } = .ok c ∧
    ((select { filters := [.condition "pk" (.int 5)] }).perform []
      { entity := ⟨0, child⟩, database := RowOperation.desk, number := 0 }).Says t result ∧
    t.map (fun x => x.question) = [.query RowOperation.desk none c.text [.string "5"]] ∧
    c.text = "SELECT \"id\", \"code\" FROM \"child\" WHERE \"id\" = $1" ∧
    c.statement.expected child.serverType? = [(1, some .int8)] ∧ ¬Parameter.Encodes .int8 (.string "5") := by
  have said := fun child => Dialogue.says_run Instance.withoutRows ()
    ((select { filters := [.condition "pk" (.int 5)] }).perform []
      { entity := ⟨0, child⟩, database := RowOperation.desk, number := 0 })
  have refused : ¬Parameter.Encodes .int8 (.string "5") := fun ⟨_, h⟩ => by cases h
  exact ⟨_, _, _, _, _, _, rfl, rfl, rfl, rfl, said _, rfl, by decide +kernel, by decide +kernel, refused⟩

end Request

end Tabula
