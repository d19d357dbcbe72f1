import Tabula.Proofs.Instance.Copies
import Tabula.Proofs.Instance.Results
import Tabula.Proofs.Mapper.Texts
import Tabula.Proofs.Sql.RowLayout
import Mathlib.Data.List.Perm.Basic
/-!
# The right value beside the right column

What a mapper sends for an operation on rows, whatever it has done before: the text is the one that would be made anew,
the `n`-th parameter is the stored form of a value of the field whose column stands beside the `n`-th placeholder, and
the cells of a returned row go to the fields of the columns that were asked for, in their order.
-/

namespace Tabula

open Sql (Equation RowLayout)

/-! ## The layout of the statements of a model -/

namespace Model

variable {m : Model}

theorem length_numbered (first : Nat) (positions : List Nat) :
    (m.numbered first positions).length = positions.length := by
  simp [numbered]

theorem numbered_append (first : Nat) (front back : List Nat) :
    m.numbered first (front ++ back) = m.numbered first front ++ m.numbered (first + front.length) back := by
  induction front generalizing first with
  | nil => rfl
  | cons p front ih =>
    have next : first + 1 + front.length = first + (p :: front).length := by
      rw [List.length_cons]
      omega
    rw [List.cons_append, numbered_cons, numbered_cons, ih, next, List.cons_append]

/-- what an update sets is numbered first, then what it compares -/
theorem numbered_update (fields compared : List Nat) :
    m.numbered 1 (fields ++ m.key ++ compared) =
      m.numbered 1 fields ++ m.numbered (fields.length + 1) (m.key ++ compared) := by
  rw [List.append_assoc, numbered_append, Nat.add_comm]

theorem getElem_numbered {positions : List Nat} {n p : Nat} (h : positions[n]? = some p) :
    (m.numbered 1 positions)[n]? = some (m.column p, n + 1) := by
  simp [numbered, h, Nat.add_comm]

theorem columns_eq : m.columns = (List.range m.fields.length).map m.column := by
  refine List.ext_getElem? fun p => ?_
  by_cases hp : p < m.fields.length
  · simp [columns, column, hp]
  · simp [columns, hp]

/-- the columns of positions beside the placeholders from the first on -/
theorem zip_numbers (positions : List Nat) : (positions.map m.column).zip
    ((List.range (positions.map m.column).length).map (· + 1)) = m.numbered 1 positions := by
  refine List.ext_getElem? fun n => ?_
  by_cases hn : n < positions.length
  · simp [numbered, hn, Nat.add_comm]
  · simp [numbered, hn]

/-- fields that satisfy a condition and fields that do not, together every field once -/
theorem perm_positionsWhere (fields : List Field) (q : Field → Bool) :
    (positionsWhere fields (fun f => !q f) ++ positionsWhere fields q).Perm (List.range fields.length) := by
  rw [← snd_zipIdx, positionsWhere, positionsWhere, ← List.map_append]
  refine List.Perm.map _ (List.perm_append_comm.trans ?_)
  exact List.filter_append_perm (fun fi => q fi.1) fields.zipIdx

end Model

/-! ## Operations -/

/-- the values of an instance at some positions, with the positions -/
def Instance.placed (i : Instance) (positions : List Nat) : List (Nat × Value) :=
  positions.map fun p => (p, i.valueAt p)

/-- an operation of a mapper on rows -/
inductive RowOperation where
  | insert (i : Instance)
  | insertAll (instances : List Instance)
  | update (i : Instance) (fields : List Nat) (conditions : List (Nat × Value))
  | delete (i : Instance)
  | load (key : List Value)

namespace RowOperation

/-- has a mapper do an operation; gives the instance that was inserted, or the one that was found, if any -/
def perform (active : Active) (m : Mapper) : RowOperation → Talk (Outcome (List Instance) × Mapper)
  | insert i => do
    let ((answer, j), m) ← m.insert active i
    return (answer.map fun _ => [j], m)
  | insertAll instances => do
    let (answer, m) ← m.insertAll active instances
    return (answer.map fun _ => [], m)
  | update i fields conditions => do
    let (answer, m) ← m.update active i fields conditions
    return (answer.map fun _ => [], m)
  | delete i => do
    let (answer, m) ← m.delete active i
    return (answer.map fun _ => [], m)
  | load key => do
    let (answer, m) ← m.load active key
    return (answer.map Option.toList, m)

/-- the shape of an update -/
def shape? : RowOperation → Option UpdateShape
  | update _ fields conditions => some ⟨fields, conditions.map Prod.fst⟩
  | _ => none

section

variable (m : Model)

/-- the statement of an operation -/
def statement : RowOperation → Sql.Statement
  | insert _ | insertAll _ => m.insertRow
  | update _ fields conditions => m.updateRow fields (conditions.map Prod.fst)
  | delete _ => m.deleteRow
  | load _ => m.selectRow

/-- the fields whose values an operation binds, by position: those written, those of the key, those compared -/
def positions : RowOperation → List Nat
  | insert _ | insertAll _ => m.insertPositions
  | update _ fields conditions => fields ++ m.key ++ conditions.map Prod.fst
  | delete _ | load _ => m.key

/-- the values that an operation binds, row by row, with the positions of their fields; a key of another length than
that of the model is not bound -/
def bound : RowOperation → List (List (Nat × Value))
  | insert i => [i.placed m.insertPositions]
  | insertAll instances => instances.map fun i => i.placed m.insertPositions
  | update i fields conditions => [i.placed fields ++ i.placed m.key ++ conditions]
  | delete i => [i.placed m.key]
  | load key => if key.length = m.key.length then [m.key.zip key] else []

/-- the fields that the cells of a returned row are put in, by position -/
def returned : RowOperation → List Nat
  | insert _ | insertAll _ => m.returningPositions
  | update .. | delete _ => []
  | load _ => List.range m.fields.length

end

/-- whether an operation is about instances of an entity and positions of its fields -/
def IsOf (e : Entity) : RowOperation → Prop
  | insert i | delete i => i.IsOf e
  | insertAll instances => ∀ i ∈ instances, i.IsOf e
  | update i fields conditions => i.IsOf e ∧ ∀ p ∈ fields ++ conditions.map Prod.fst, p < e.model.fields.length
  | load _ => True

variable {op : RowOperation} {m : Model} {e : Entity}

/-- **The text of an operation's statement shows the columns of the fields that it binds, in order.** -/
theorem layout (op : RowOperation) (m : Model) : RowLayout.ofText? (op.statement m).text =
    some ⟨m.numbered 1 (op.positions m), (op.returned m).map m.column⟩ := by
  have inserted : RowLayout.ofText? m.insertRow.text =
      some ⟨m.numbered 1 m.insertPositions, m.returningPositions.map m.column⟩ := by
    rw [Model.insertRow, RowLayout.ofText_insert, Model.zip_numbers]
  cases op with
  | insert i => exact inserted
  | insertAll instances => exact inserted
  | update i fields conditions =>
    rw [statement, Model.updateRow_eq, RowLayout.ofText_update, positions, Model.numbered_update]
    rfl
  | delete i =>
    rw [statement, Model.deleteRow, Model.rowsEqual_eq, RowLayout.ofText_delete]
    rfl
  | load key =>
    rw [statement, Model.selectRow_eq, RowLayout.ofText_select, Model.columns_eq]
    rfl

theorem lt_of_mem_positions (sound : e.model.Sound) (fits : op.IsOf e) :
    ∀ p ∈ op.positions e.model, p < e.model.fields.length := by
  intro p hp
  have written : p ∈ e.model.insertPositions → p < e.model.fields.length := Model.lt_of_mem_positionsWhere
  have key : p ∈ e.model.key → p < e.model.fields.length := sound.key_lt p
  cases op with
  | insert i => exact written hp
  | insertAll instances => exact written hp
  | update i fields conditions =>
    rcases List.mem_append.mp hp with hp | hp
    · rcases List.mem_append.mp hp with hp | hp
      · exact fits.2 p (List.mem_append_left _ hp)
      · exact key hp
    · exact fits.2 p (List.mem_append_right _ hp)
  | delete i => exact key hp
  | load k => exact key hp

theorem fst_placed (i : Instance) (ps : List Nat) : (i.placed ps).map Prod.fst = ps := by
  rw [Instance.placed, List.map_map]
  exact List.map_id ps

theorem fst_of_mem_bound {row : List (Nat × Value)} (h : row ∈ op.bound m) : row.map Prod.fst = op.positions m := by
  cases op with
  | insert i =>
    obtain rfl := List.mem_singleton.mp h
    exact fst_placed i _
  | insertAll instances =>
    obtain ⟨i, _, rfl⟩ := List.mem_map.mp h
    exact fst_placed i _
  | update i fields conditions =>
    obtain rfl := List.mem_singleton.mp h
    simp only [List.map_append, fst_placed, positions]
  | delete i =>
    obtain rfl := List.mem_singleton.mp h
    exact fst_placed i _
  | load key =>
    simp only [bound] at h
    split at h
    · next same =>
      obtain rfl := List.mem_singleton.mp h
      exact List.map_fst_zip (Nat.le_of_eq same.symm)
    · exact absurd h List.not_mem_nil

/-! ## Parameters -/

/-- the parameters for values with the positions of their fields -/
def stored (e : Entity) (row : List (Nat × Value)) : Outcome (List Value) :=
  row.mapM fun pv => Mapper.parameter e pv.1 pv.2

theorem parameters_eq (i : Instance) (ps : List Nat) : Mapper.parameters i ps = stored i.entity (i.placed ps) := by
  rw [stored, Instance.placed, List.mapM_map]
  rfl

theorem parametersAll_eq {instances : List Instance} (fits : ∀ i ∈ instances, i.entity = e) (ps : List Nat) :
    (instances.mapM fun i => Mapper.parameters i ps) = (instances.map fun i => i.placed ps).mapM (stored e) := by
  induction instances with
  | nil => rfl
  | cons i rest ih =>
    have first : i.entity = e := fits i List.mem_cons_self
    rw [List.mapM_cons, List.map_cons, List.mapM_cons, parameters_eq, first,
      ih fun j hj => fits j (List.mem_cons_of_mem _ hj)]

theorem updateParameters_eq (i : Instance) (fields : List Nat) (conditions : List (Nat × Value)) :
    Mapper.updateParameters i fields conditions =
      stored i.entity (i.placed fields ++ i.placed i.model.key ++ conditions) := by
  rw [stored, List.mapM_append, List.mapM_append, Mapper.updateParameters, parameters_eq, parameters_eq]
  simp only [stored, bind_assoc, pure_bind]

/-- whether everything that an operation binds can be stored -/
def Storable (e : Entity) (op : RowOperation) : Prop :=
  op.bound e.model ≠ [] ∧ ∀ row ∈ op.bound e.model, ∃ parameters, stored e row = .ok parameters

/-- whether parameters are the stored forms of values, each beside the column of its field -/
structure Beside (e : Entity) (layout : RowLayout) (row : List (Nat × Value)) (parameters : List Value) : Prop where
  count : parameters.length = row.length
  places : layout.parameters.length = row.length
  beside : ∀ n p v, row[n]? = some (p, v) → ∃ f c, e.model.fields[p]? = some f ∧
    layout.parameters[n]? = some (f.column, n + 1) ∧ parameters[n]? = some c ∧ f.toStorage v = .ok c

theorem beside_of_stored {row : List (Nat × Value)} {parameters : List Value} {layout : RowLayout}
    (lt : ∀ p ∈ row.map Prod.fst, p < e.model.fields.length)
    (places : layout.parameters = e.model.numbered 1 (row.map Prod.fst)) (h : stored e row = .ok parameters) :
    Beside e layout row parameters := by
  have each := Outcome.mapM_ok.mp h
  refine ⟨each.length_eq.symm, ?_, fun n p v hn => ?_⟩
  · rw [places, Model.length_numbered, List.length_map]
  · have position : (row.map Prod.fst)[n]? = some p := by rw [List.getElem?_map, hn, Option.map_some]
    have inside : p < e.model.fields.length := lt p (List.mem_of_getElem? position)
    obtain ⟨ln, hrow⟩ := List.getElem?_eq_some_iff.mp hn
    have ln' : n < parameters.length := each.length_eq ▸ ln
    have converted := (List.forall₂_iff_get.mp each).2 n ln ln'
    simp only [List.get_eq_getElem, hrow] at converted
    have field : e.model.fields[p]? = some e.model.fields[p] := List.getElem?_eq_getElem inside
    have column : e.model.column p = e.model.fields[p].column := by simp [Model.column, field]
    refine ⟨e.model.fields[p], parameters[n], field, ?_, List.getElem?_eq_getElem ln', ?_⟩
    · rw [places, Model.getElem_numbered position, column]
    · rw [Mapper.parameter, field] at converted
      exact converted

end RowOperation

/-! ## What is sent -/

/-- the database and the connection that a statement goes to, its text and its rows of parameters -/
def Call.statement? : Call → Option (Database × Option Connection × String × List (List Value))
  | .execute on pinned text parameters | .query on pinned text parameters => some (on, pinned, text, [parameters])
  | .executeMany on pinned text rows => some (on, pinned, text, rows)
  | _ => none

/-- the first row that is fetched -/
def Call.row? : Dialogue.Exchange Call Call.Answer → Option Row
  | ⟨.query .., .ok (row :: _)⟩ => some row
  | _ => none

namespace RowOperation

variable {op : RowOperation} {m : Model} {e : Entity} {on : Database} {active : Active}
  {result : Outcome (List Instance)} {x : Dialogue.Exchange Call Call.Answer}

/-- whether a question with its answer is the statement of an operation, with the right parameters beside the right
columns, and the cells of the row that is returned are read into the fields of the columns that are asked for -/
structure Sent (op : RowOperation) (e : Entity) (on : Database) (active : Active) (result : Outcome (List Instance))
    (x : Dialogue.Exchange Call Call.Answer) : Prop where
  bound : ∃ rows layout, x.question.statement? = some (on, on.pinned active, (op.statement e.model).text, rows) ∧
    RowLayout.ofText? (op.statement e.model).text = some layout ∧
    layout.results = (op.returned e.model).map e.model.column ∧
    List.Forall₂ (Beside e layout) (op.bound e.model) rows
  read : ∀ instances, result = .ok instances → ∀ j ∈ instances, ∀ (k p : Nat) (f : Field),
    (op.returned e.model)[k]? = some p → e.model.fields[p]? = some f →
      ∃ row, Call.row? x = some row ∧ f.accept (row.values.getD k .null) = .ok (j.valueAt p)

theorem bound_of_stored (sound : e.model.Sound) (fits : op.IsOf e) {rows : List (List Value)}
    (each : (op.bound e.model).mapM (stored e) = .ok rows)
    (question : x.question.statement? = some (on, on.pinned active, (op.statement e.model).text, rows)) :
    ∃ rows layout, x.question.statement? = some (on, on.pinned active, (op.statement e.model).text, rows) ∧
      RowLayout.ofText? (op.statement e.model).text = some layout ∧
      layout.results = (op.returned e.model).map e.model.column ∧
      List.Forall₂ (Beside e layout) (op.bound e.model) rows := by
  refine ⟨rows, _, question, op.layout e.model, rfl, ?_⟩
  have all := (List.forall₂_and_left (p := fun row => row ∈ op.bound e.model) _ _).mpr
    ⟨fun _ h => h, Outcome.mapM_ok.mp each⟩
  refine all.imp fun row parameters ⟨mem, h⟩ => ?_
  have fst := fst_of_mem_bound mem
  exact beside_of_stored (fst ▸ lt_of_mem_positions sound fits) (by rw [fst]) h

/-- whether what is said for an operation is its statement, once, if everything can be stored, and nothing otherwise -/
structure Told (op : RowOperation) (e : Entity) (on : Database) (active : Active)
    (t : List (Dialogue.Exchange Call Call.Answer)) (result : Outcome (List Instance)) : Prop where
  silent : t = [] ↔ ¬op.Storable e
  once : t.length ≤ 1
  sent : ∀ x ∈ t, op.Sent e on active result x

theorem storable_iff :
    op.Storable e ↔ op.bound e.model ≠ [] ∧ ∃ rows, (op.bound e.model).mapM (stored e) = .ok rows := by
  rw [Storable, Outcome.exists_mapM_ok]

theorem told_nothing (h : ¬op.Storable e) : op.Told e on active [] result :=
  ⟨⟨fun _ => h, fun _ => rfl⟩, Nat.zero_le 1, fun _ hx => absurd hx List.not_mem_nil⟩

theorem told_one (sent : op.Sent e on active result x) (storable : op.Storable e) : op.Told e on active [x] result := by
  refine ⟨⟨fun h => absurd h (List.cons_ne_nil _ _), fun h => absurd storable h⟩, Nat.le_refl 1, fun y hy => ?_⟩
  obtain rfl := List.mem_singleton.mp hy
  exact sent

/-! ### The operations one by one -/

variable {mapper mapper' : Mapper} {number : Nat} {used : List UpdateShape} {i j : Instance}
  {t : List (Dialogue.Exchange Call Call.Answer)}

theorem mapM_singleton {row : List (Nat × Value)} {parameters : List Value} (h : stored e row = .ok parameters) :
    [row].mapM (stored e) = .ok [parameters] :=
  Outcome.mapM_ok.mpr (.cons h .nil)

theorem not_storable_singleton {row : List (Nat × Value)} (one : op.bound e.model = [row]) {err : Error}
    (h : stored e row = .error err) : ¬op.Storable e := by
  rintro ⟨_, each⟩
  obtain ⟨parameters, ok⟩ := each row (one ▸ List.mem_singleton.mpr rfl)
  rw [h] at ok
  cases ok

/-- cells are read into the fields at the positions, in their order; what is at other positions stays -/
theorem valueAt_readBack {cells : List Value} {ps : List Nat} (inside : ∀ p ∈ ps, p < i.values.length)
    (nodup : ps.Nodup) (h : Mapper.readBack i cells ps = (.ok (), j)) :
    (∀ p, p ∉ ps → j.valueAt p = i.valueAt p) ∧ ∀ (k p : Nat) (f : Field), ps[k]? = some p →
      i.model.fields[p]? = some f → f.accept (cells.getD k .null) = .ok (j.valueAt p) := by
  induction ps generalizing i cells with
  | nil =>
    cases h
    exact ⟨fun _ _ => rfl, fun k p f hk => by simp at hk⟩
  | cons q ps ih =>
    obtain ⟨fresh, nodup⟩ := List.nodup_cons.mp nodup
    have tail : ∀ p ∈ ps, p < i.values.length := fun p hp => inside p (List.mem_cons_of_mem _ hp)
    unfold Mapper.readBack at h
    split at h
    · next missing =>
      obtain ⟨kept, read⟩ := ih tail nodup h
      refine ⟨fun p hp => kept p fun hm => hp (List.mem_cons_of_mem _ hm), fun k p f hk hf => ?_⟩
      cases k with
      | zero =>
        obtain rfl := Option.some.inj hk
        rw [missing] at hf
        cases hf
      | succ k => simpa [List.getD_eq_getElem?_getD, List.getElem?_drop, Nat.add_comm] using read k p f hk hf
    · next g hg =>
      split at h
      · cases h
      · next v hv =>
        have tail' : ∀ p ∈ ps, p < (i.withAt q v).values.length := fun p hp => i.length_withAt q v ▸ tail p hp
        obtain ⟨kept, read⟩ := ih tail' nodup h
        refine ⟨fun p hp => ?_, fun k p f hk hf => ?_⟩
        · have other : q ≠ p := fun same => hp (same ▸ List.mem_cons_self)
          rw [kept p fun hm => hp (List.mem_cons_of_mem _ hm), Instance.valueAt_withAt_ne other]
        · cases k with
          | zero =>
            obtain rfl := Option.some.inj hk
            -- no later cell goes to the position of the first
            rw [kept q fresh, Instance.valueAt_withAt_self (inside q List.mem_cons_self)]
            rw [hg] at hf
            obtain rfl := Option.some.inj hf
            cases cells <;> exact hv
          | succ k => simpa [List.getD_eq_getElem?_getD, List.getElem?_drop, Nat.add_comm] using read k p f hk hf

theorem told_insert (kept : mapper.Keeps e on number used) (sound : e.model.Sound) (fits : i.IsOf e)
    {answer : Outcome Unit} (said : (mapper.insert active i).Says t ((answer, j), mapper')) :
    (insert i).Told e on active t (answer.map fun _ => [j]) := by
  obtain ⟨text, kept'⟩ := kept.insertion
  have one : (insert i).bound e.model = [i.placed e.model.insertPositions] := rfl
  have typed : (insert i).IsOf e := fits
  unfold Mapper.insert at said
  simp only [text, kept'.model, kept'.database, parameters_eq, fits.entity] at said
  split at said
  · next err failed =>
    obtain ⟨rfl, _⟩ := Dialogue.says_pure.mp said
    exact told_nothing (not_storable_singleton one failed)
  · next parameters ok =>
    have each : ((insert i).bound e.model).mapM (stored e) = .ok [parameters] := one ▸ mapM_singleton ok
    have storable : (insert i).Storable e := storable_iff.mpr ⟨by simp [one], _, each⟩
    split at said
    · next empty =>
      obtain ⟨reply, back, rfl, rest⟩ := Dialogue.says_ask.mp said
      obtain ⟨rfl, _⟩ := Dialogue.says_pure.mp rest
      refine told_one ⟨bound_of_stored sound typed each rfl, fun _ _ j _ k p f hk => ?_⟩ storable
      rw [returned, List.isEmpty_iff.mp empty] at hk
      cases hk
    · obtain ⟨reply, back, rfl, rest⟩ := Dialogue.says_ask.mp said
      have failed : ∀ err : Error, ∀ instances, (.error err : Outcome (List Instance)) ≠ .ok instances := nofun
      match reply with
      | .error err =>
        obtain ⟨rfl, same⟩ := Dialogue.says_pure.mp rest
        cases same
        exact told_one ⟨bound_of_stored sound typed each rfl, fun _ ok' => absurd ok' (failed _ _)⟩ storable
      | .ok [] =>
        obtain ⟨rfl, same⟩ := Dialogue.says_pure.mp rest
        cases same
        exact told_one ⟨bound_of_stored sound typed each rfl, fun _ ok' => absurd ok' (failed _ _)⟩ storable
      | .ok (row :: others) =>
        obtain ⟨rfl, same⟩ := Dialogue.says_pure.mp rest
        injection same with read
        refine told_one ⟨bound_of_stored sound typed each rfl, fun instances made j' hj' k p f hk hf => ?_⟩ storable
        obtain ⟨_, done, rfl⟩ := Outcome.map_ok.mp made
        obtain rfl := List.mem_singleton.mp hj'
        have inside : ∀ p ∈ e.model.returningPositions, p < i.values.length :=
          fun p hp => fits.length ▸ Model.lt_of_mem_positionsWhere hp
        have assigned := valueAt_readBack inside (Model.nodup_positionsWhere ..) (read.symm.trans (by rw [done]))
        refine ⟨row, rfl, assigned.2 k p f hk ?_⟩
        rw [Instance.model, fits.entity]
        exact hf

theorem told_insertAll (kept : mapper.Keeps e on number used) (sound : e.model.Sound) {instances : List Instance}
    (fits : ∀ i ∈ instances, i.IsOf e) {answer : Outcome Nat}
    (said : (mapper.insertAll active instances).Says t (answer, mapper')) :
    (insertAll instances).Told e on active t (answer.map fun _ => []) := by
  obtain ⟨text, kept'⟩ := kept.insertion
  have typed : (insertAll instances).IsOf e := fits
  have rows : (instances.mapM fun i => Mapper.parameters i e.model.insertPositions) =
      ((insertAll instances).bound e.model).mapM (stored e) := parametersAll_eq (fun i hi => (fits i hi).entity) _
  unfold Mapper.insertAll at said
  split at said
  · next empty =>
    obtain ⟨rfl, _⟩ := Dialogue.says_pure.mp said
    refine told_nothing fun storable => storable.1 ?_
    simp [bound, List.isEmpty_iff.mp empty]
  · next some =>
    simp only [text, kept'.model, kept'.database, rows] at said
    split at said
    · next err failed =>
      obtain ⟨rfl, _⟩ := Dialogue.says_pure.mp said
      refine told_nothing fun storable => ?_
      obtain ⟨_, parameters, ok⟩ := storable_iff.mp storable
      rw [failed] at ok
      cases ok
    · next parameters each =>
      have nonempty : (insertAll instances).bound e.model ≠ [] := by simpa [bound] using some
      obtain ⟨reply, back, rfl, rest⟩ := Dialogue.says_ask.mp said
      obtain ⟨rfl, same⟩ := Dialogue.says_pure.mp rest
      refine told_one ⟨bound_of_stored sound typed each rfl, fun found made j hj => ?_⟩
        (storable_iff.mpr ⟨nonempty, _, each⟩)
      obtain ⟨_, _, rfl⟩ := Outcome.map_ok.mp made
      exact absurd hj List.not_mem_nil

/-- an operation that binds one row and counts -/
theorem told_execute (sound : e.model.Sound) (fits : op.IsOf e) {row : List (Nat × Value)}
    (one : op.bound e.model = [row]) {answer : Outcome Nat}
    (said : Dialogue.Says (match stored e row with
      | .error err => return (.error err, mapper)
      | .ok parameters => do return (← on.execute active (op.statement e.model).text parameters, mapper)) t
      (answer, mapper')) : op.Told e on active t (answer.map fun _ => []) := by
  cases converted : stored e row with
  | error err =>
    rw [converted] at said
    obtain ⟨rfl, _⟩ := Dialogue.says_pure.mp said
    exact told_nothing (not_storable_singleton one converted)
  | ok parameters =>
    rw [converted] at said
    have each : (op.bound e.model).mapM (stored e) = .ok [parameters] := one ▸ mapM_singleton converted
    obtain ⟨reply, back, rfl, rest⟩ := Dialogue.says_ask.mp said
    obtain ⟨rfl, same⟩ := Dialogue.says_pure.mp rest
    refine told_one ⟨bound_of_stored sound fits each rfl, fun found made j hj => ?_⟩
      (storable_iff.mpr ⟨by simp [one], _, each⟩)
    obtain ⟨_, _, rfl⟩ := Outcome.map_ok.mp made
    exact absurd hj List.not_mem_nil

theorem told_update (kept : mapper.Keeps e on number used) (sound : e.model.Sound) {fields : List Nat}
    {conditions : List (Nat × Value)} (fits : (update i fields conditions).IsOf e) {answer : Outcome Nat}
    (said : (mapper.update active i fields conditions).Says t (answer, mapper')) :
    (update i fields conditions).Told e on active t (answer.map fun _ => []) := by
  obtain ⟨text, kept'⟩ := kept.updating ⟨fields, conditions.map Prod.fst⟩
  have model : i.model = e.model := congrArg Entity.model fits.1.entity
  unfold Mapper.update at said
  simp only [text, kept'.database, updateParameters_eq, fits.1.entity, model] at said
  exact told_execute sound fits rfl said

theorem told_delete (kept : mapper.Keeps e on number used) (sound : e.model.Sound) (fits : i.IsOf e)
    {answer : Outcome Nat} (said : (mapper.delete active i).Says t (answer, mapper')) :
    (delete i).Told e on active t (answer.map fun _ => []) := by
  obtain ⟨text, kept'⟩ := kept.deletion
  have typed : (delete i).IsOf e := fits
  unfold Mapper.delete at said
  simp only [text, kept'.model, kept'.database, parameters_eq, fits.entity] at said
  exact told_execute sound typed rfl said

/-- what a row makes: the cell of each field, in its place -/
theorem accept_ofRow {database : String} {raw : List Value} (h : Instance.ofRow e database raw = .ok j) (p : Nat)
    (f : Field) (hf : e.model.fields[p]? = some f) : f.accept (raw.getD p .null) = .ok (j.valueAt p) := by
  have inside : p < e.model.fields.length := (List.getElem?_eq_some_iff.mp hf).1
  have made := Instance.isOf_ofRow h
  obtain ⟨same, values, accepted, rfl⟩ := Instance.ofRow_ok h
  have reached : p < values.length := made.length ▸ inside
  have there : values[p]? = some values[p] := List.getElem?_eq_getElem reached
  obtain ⟨c, hc, read⟩ := Instance.accepted_at same accepted hf there
  rw [List.getD_eq_getElem?_getD, hc, Instance.valueAt_of_getElem there]
  exact read

theorem told_load (kept : mapper.Keeps e on number used) (sound : e.model.Sound) {key : List Value}
    {answer : Outcome (Option Instance)} (said : (mapper.load active key).Says t (answer, mapper')) :
    (load key).Told e on active t (answer.map Option.toList) := by
  obtain ⟨text, kept'⟩ := kept.fetch
  unfold Mapper.load at said
  rw [kept.model] at said
  split at said
  · next other =>
    obtain ⟨rfl, _⟩ := Dialogue.says_pure.mp said
    exact told_nothing fun storable => storable.1 (if_neg other)
  · next same =>
    have one : (load key).bound e.model = [e.model.key.zip key] := if_pos (not_not.mp same)
    have typed : (load key).IsOf e := trivial
    rw [kept.entity] at said
    simp only [text, kept'.database] at said
    split at said
    · next err failed =>
      obtain ⟨rfl, _⟩ := Dialogue.says_pure.mp said
      exact told_nothing (not_storable_singleton one failed)
    · next parameters ok =>
      have each : ((load key).bound e.model).mapM (stored e) = .ok [parameters] := one ▸ mapM_singleton ok
      obtain ⟨reply, back, rfl, rest⟩ := Dialogue.says_ask.mp said
      obtain ⟨rfl, same⟩ := Dialogue.says_pure.mp rest
      refine told_one ⟨bound_of_stored sound typed each rfl, fun found made j hj k p f hk hf => ?_⟩
        (storable_iff.mpr ⟨by simp [one], _, each⟩)
      obtain ⟨first, loaded, rfl⟩ := Outcome.map_ok.mp made
      injection same with same
      obtain ⟨instances, decoded, head⟩ := Outcome.map_ok.mp (same.symm.trans loaded)
      obtain ⟨rows, fetched, decoded⟩ := Outcome.bind_ok.mp decoded
      obtain rfl := Option.mem_toList.mp hj
      subst fetched
      have each := Outcome.mapM_ok.mp decoded
      -- the key leads to one row; what other rows there are is not looked at
      cases each with
      | nil => cases head
      | cons read _ =>
        obtain rfl := Option.some.inj head
        rw [kept'.entity] at read
        obtain ⟨_, hk⟩ := List.getElem?_eq_some_iff.mp hk
        obtain rfl : k = p := by simpa [returned] using hk
        exact ⟨_, rfl, accept_ofRow read k f hf⟩

/-- an operation leaves its mapper with the texts of its own, and with one for its shape if it is an update -/
theorem keeps_after (kept : mapper.Keeps e on number used) (op : RowOperation)
    (said : (op.perform active mapper).Says t (result, mapper')) :
    mapper'.Keeps e on number (used ++ op.shape?.toList) := by
  cases op with
  | insert i =>
    obtain ⟨x, asked, same⟩ := Dialogue.says_bind_pure.mp said
    cases same
    simpa [shape?] using Dialogue.Always.of_says (kept.always_insert active i) asked
  | insertAll instances =>
    obtain ⟨x, asked, same⟩ := Dialogue.says_bind_pure.mp said
    cases same
    simpa [shape?] using Dialogue.Always.of_says (kept.always_insertAll active instances) asked
  | update i fields conditions =>
    obtain ⟨x, asked, same⟩ := Dialogue.says_bind_pure.mp said
    cases same
    exact Dialogue.Always.of_says (kept.always_update active i fields conditions) asked
  | delete i =>
    obtain ⟨x, asked, same⟩ := Dialogue.says_bind_pure.mp said
    cases same
    simpa [shape?] using Dialogue.Always.of_says (kept.always_delete active i) asked
  | load key =>
    obtain ⟨x, asked, same⟩ := Dialogue.says_bind_pure.mp said
    cases same
    simpa [shape?] using Dialogue.Always.of_says (kept.always_load active key) asked

/-- **What a mapper says for an operation.** -/
theorem told (kept : mapper.Keeps e on number used) (sound : e.model.Sound) (fits : op.IsOf e)
    (said : (op.perform active mapper).Says t (result, mapper')) : op.Told e on active t result := by
  cases op with
  | insert i =>
    obtain ⟨⟨⟨answer, j⟩, m⟩, asked, same⟩ := Dialogue.says_bind_pure.mp said
    cases same
    exact told_insert kept sound fits asked
  | insertAll instances =>
    obtain ⟨⟨answer, m⟩, asked, same⟩ := Dialogue.says_bind_pure.mp said
    cases same
    exact told_insertAll kept sound fits asked
  | update i fields conditions =>
    obtain ⟨⟨answer, m⟩, asked, same⟩ := Dialogue.says_bind_pure.mp said
    cases same
    exact told_update kept sound fits asked
  | delete i =>
    obtain ⟨⟨answer, m⟩, asked, same⟩ := Dialogue.says_bind_pure.mp said
    cases same
    exact told_delete kept sound fits asked
  | load key =>
    obtain ⟨⟨answer, m⟩, asked, same⟩ := Dialogue.says_bind_pure.mp said
    cases same
    exact told_load kept sound asked

/-! ## Histories -/

/-- what becomes of a mapper in a sequence of operations, whatever the databases answer -/
inductive Reaches (start : Mapper) : List RowOperation → Mapper → Prop where
  | nil : Reaches start [] start
  | snoc {ops : List RowOperation} {m m' : Mapper} {op : RowOperation} {active : Active}
      {t : List (Dialogue.Exchange Call Call.Answer)} {result : Outcome (List Instance)} (h : Reaches start ops m)
      (said : (op.perform active m).Says t (result, m')) : Reaches start (ops ++ [op]) m'

theorem shapes_snoc (ops : List RowOperation) (op : RowOperation) :
    (ops ++ [op]).filterMap shape? = ops.filterMap shape? ++ op.shape?.toList := by
  rw [List.filterMap_append]
  cases h : op.shape? <;> simp [h]

/-- after any operations a mapper has the texts of its own, and one for each shape of the updates among them -/
theorem Reaches.keeps {ops : List RowOperation} (h : Reaches { entity := e, database := on, number } ops mapper) :
    mapper.Keeps e on number (ops.filterMap shape?) := by
  induction h with
  | nil => exact .fresh e on number
  | snoc h said ih =>
    have next := keeps_after ih _ said
    rwa [shapes_snoc]

/-- **Row statements bind the right value to the right column, whatever was executed before.**  A mapper that was made
for an entity has done any operations, with any answers, and does one more.  It says nothing if a value that the
operation binds cannot be stored, and one statement otherwise.  The statement goes to its database and has the text that
would be made anew; the `n`-th column beside a placeholder is that of the field whose value, in its stored form, is the
`n`-th parameter; and the `n`-th column of the result is that of the field which the `n`-th cell of the row is read
into.  The fields that an insertion writes and those that it reads back are all fields, each once.  The texts of updates
that are kept are as many as there were different lists of fields and compared fields. -/
theorem sent_of_reaches {d : Draft} (built : d.build = .ok e.model) {ops : List RowOperation}
    (reached : Reaches { entity := e, database := on, number } ops mapper) (fits : op.IsOf e)
    (said : (op.perform active mapper).Says t (result, mapper')) :
    (t = [] ↔ ¬op.Storable e) ∧ t.length ≤ 1 ∧ (∀ x ∈ t, op.Sent e on active result x) ∧
      (e.model.insertPositions ++ e.model.returningPositions).Perm (List.range e.model.fields.length) ∧
      mapper'.shapeCount = ((ops ++ [op]).filterMap shape?).dedup.length := by
  have told := told reached.keeps (Draft.sound_of_build built) fits said
  have next : Reaches { entity := e, database := on, number } (ops ++ [op]) mapper' := .snoc reached said
  exact ⟨told.silent, told.once, told.sent, Model.perm_positionsWhere e.model.fields _, next.keeps.shapeCount_eq⟩

/-- the definition of tickets: the database numbers them, and they have a version -/
def ticketDraft : Draft where
  name := "Ticket"
  table := some "ticket"
  fields := [(Field.new "id" .auto).asKey, Field.new "title" .text, Field.new "rev" .version]

def tickets : Model where
  name := "Ticket"
  table := "ticket"
  database := defaultDatabase
  isAbstract := false
  description := none
  uniqueTogether := []
  indexes := []
  fields := [(Field.new "id" .auto).asKey, Field.new "title" .text, Field.new "rev" .version]
  key := [0]

/-- the database of the tickets -/
def desk : Database := ⟨defaultDatabase, 0⟩

/-- gives a ticket another title if it still has the version 2 -/
def retitle : RowOperation :=
  .update { entity := ⟨0, tickets⟩, values := [.int 7, .string "paid", .int 3], persisted := true } [1, 2] [(2, .int 2)]

/-- the mapper of the tickets when it has done that once -/
def retitled : Mapper :=
  (Dialogue.run Instance.withoutRows () (retitle.perform [] { entity := ⟨0, tickets⟩, database := desk, number := 0 })).1.2

theorem sent_of_reaches_retitled : ∃ t result m', (retitle.perform [] retitled).Says t (result, m') ∧
    t.map (fun x => x.question) = [.execute desk none
      "UPDATE \"ticket\" SET \"title\" = $1, \"rev\" = $2 WHERE \"id\" = $3 AND \"rev\" = $4"
      [.string "paid", .int 3, .int 7, .int 2]] ∧
    (∀ x ∈ t, retitle.Sent ⟨0, tickets⟩ desk [] result x) ∧ m'.shapeCount = 1 := by
  have built : ticketDraft.build = .ok tickets := rfl
  have once : Reaches { entity := ⟨0, tickets⟩, database := desk, number := 0 } [retitle] retitled :=
    .snoc .nil (Dialogue.says_run Instance.withoutRows () (retitle.perform [] _))
  have fits : retitle.IsOf ⟨0, tickets⟩ := ⟨⟨rfl, rfl⟩, by decide⟩
  have said := Dialogue.says_run Instance.withoutRows () (retitle.perform [] retitled)
  obtain ⟨_, _, sent, _, shapes⟩ := sent_of_reaches built once fits said
  have two : (([retitle] ++ [retitle]).filterMap shape?).dedup.length = 1 := by decide
  exact ⟨_, _, _, said, rfl, sent, shapes.trans two⟩

end RowOperation

end Tabula
