import Tabula.Proofs.Dialogue
import Tabula.Proofs.Instance.Copies
import Tabula.Proofs.Registry
/-!
# Saving a copy of a row

What a save that is not forced comes to when a copy that has observed one version of a row meets the row at another:
`Saved` lists the cases, and `Instance.IsCopy.saved` says that there are no others.
-/

namespace Tabula

variable {e : Entity} {m : Model} {row : StoredRow} {version : Nat} {n k stored : Int64} {values cells : List Value}
  {i : Instance} {fields : List Nat}

/-! ## Writing values -/

/-- the cells that the values at some positions are stored in -/
def Model.Stores (m : Model) (values : List Value) (fields : List Nat) (cells : List Value) : Prop :=
  List.Forall₂ (fun p c => ∃ f v, m.fields[p]? = some f ∧ values[p]? = some v ∧ f.toStorage v = .ok c) fields cells

/-- values of a copy can be stored -/
theorem Model.Copies.stores (h : m.Copies row version n values) (hf : ∀ p ∈ fields, p < m.fields.length) :
    ∃ cells, m.Stores values fields cells := by
  induction fields with
  | nil => exact ⟨[], .nil⟩
  | cons p rest ih =>
    obtain ⟨cells, hc⟩ := ih fun q hq => hf q (List.mem_cons_of_mem _ hq)
    have lt := hf p List.mem_cons_self
    have field := List.getElem?_eq_getElem lt
    have value := List.getElem?_eq_getElem (h.length ▸ lt)
    obtain ⟨c, stored⟩ := h.storable p _ _ field value
    exact ⟨c :: cells, .cons ⟨_, _, field, value, stored⟩ hc⟩

/-- what the key of a copy is stored in is the key of the row -/
theorem Model.Copies.cell_of_key (h : m.Copies row version n values) (stores : m.Stores values fields cells)
    {p : Nat} {c : Value} (hp : p ∈ m.key) (hm : (p, c) ∈ fields.zip cells) : row.cells[p]? = some c := by
  obtain ⟨f, v, hf, hv, hs⟩ := (List.forall₂_iff_zip.mp stores).2 hm
  obtain ⟨c', hc, hs'⟩ := h.key p hp f v hf hv
  rw [hs] at hs'
  injection hs' with hs'
  rw [hc, hs']

/-- **An update writes a copy's values into the row**, which keeps its key and gets the version of the copy. -/
theorem StoredRow.Keeps.updated (hm : m.Versioned version) (hr : row.Keeps m version n)
    (hc : m.Copies row version k values) (stores : m.Stores values fields cells) (hv : version ∈ fields) :
    (row.updated (fields.zip cells)).Keeps m version k ∧
      ∀ p ∈ m.key, (row.updated (fields.zip cells)).cells[p]? = row.cells[p]? := by
  obtain ⟨length, each⟩ := List.forall₂_iff_zip.mp stores
  have isOf := hr.toIsOf.updated (fields.zip cells)
  have key : ∀ p ∈ m.key, (row.updated (fields.zip cells)).cells[p]? = row.cells[p]? := by
    intro p hp
    have there := List.getElem?_eq_getElem (isOf.length ▸ hm.key_lt p hp)
    rw [there]
    rcases assign_cases there with set | ⟨kept, _⟩
    · exact (hc.cell_of_key stores hp set).symm
    · exact kept.symm
  refine ⟨⟨isOf, fun p f c hf hp => ?_, fun p hp c hcell => ?_, ?_⟩, key⟩
  · rcases assign_cases hp with set | ⟨kept, _⟩
    · obtain ⟨g, v, hg, _, hs⟩ := each set
      rw [hf] at hg
      injection hg with hg
      exact hg ▸ Field.holds_of_toStorage hs
    · exact hr.holds p f c hf kept
  · rw [key p hp] at hcell
    exact hr.findable p hp c hcell
  · have there := List.getElem?_eq_getElem (isOf.length ▸ hm.lt_length)
    rw [there]
    rcases assign_cases there with set | ⟨_, absent⟩
    · obtain ⟨f, hf, kind⟩ := hm.field
      obtain ⟨g, v, hg, hv, hs⟩ := each set
      rw [hf] at hg
      injection hg with hg
      subst hg
      rw [hc.counter] at hv
      injection hv with hv
      rw [← hv, Field.toStorage_counter kind] at hs
      injection hs with hs
      rw [hs]
    · rw [List.map_fst_zip (Nat.le_of_eq length)] at absent
      exact absurd hv absent

namespace Instance

/-- the parameters for a copy's fields are the cells they are stored in -/
theorem parameters_of_stores (entity : i.entity = e) (stores : e.model.Stores i.values fields cells) :
    Mapper.parameters i fields = .ok cells := by
  refine Outcome.mapM_ok.mpr (stores.imp fun p c => ?_)
  rintro ⟨f, v, hf, hv, hs⟩
  rw [Mapper.parameter, entity, hf, valueAt_of_getElem hv]
  exact hs

/-- the row is found just if it has the version compared -/
theorem agrees_key (hr : row.Keeps m version stored) (hc : m.Copies row version k values)
    (stores : m.Stores values m.key cells) :
    row.agrees ((m.key ++ [version]).zip (cells ++ [.int n])) = true ↔ stored = n := by
  have length := (List.forall₂_iff_zip.mp stores).1
  have key : ∀ x ∈ m.key.zip cells, (row.cells.getD x.1 .null).equals x.2 = .yes := by
    rintro ⟨p, c⟩ hx
    have hp := (List.of_mem_zip hx).1
    have cell := hc.cell_of_key stores hp hx
    rw [List.getD_eq_getElem?_getD, cell, Option.getD_some]
    exact hr.findable p hp c cell
  have counter : (row.cells.getD version .null).equals (.int n) = .yes ↔ stored = n := by
    rw [List.getD_eq_getElem?_getD, hr.counter, Option.getD_some, Value.equals_yes]
    simp [Value.isNull, Value.same]
  rw [StoredRow.agrees_iff, List.zip_append length, List.forall_mem_append]
  constructor
  · intro h
    exact counter.mp (h.2 (version, .int n) (by simp))
  · intro h
    refine ⟨key, fun x hx => ?_⟩
    rw [List.mem_singleton.mp hx]
    exact counter.mpr h

/-! ## What a save comes to -/

/-- the ways in which a save of a copy at version `n` can end when the row is at version `stored`, with the result and
the row afterwards -/
inductive Saved (i : Instance) (f : Field) (row : StoredRow) (version : Nat) (n stored : Int64) :
    Outcome Unit × Instance → StoredRow → Prop where
  /-- nothing has changed and nothing is done -/
  | unchanged (none : i.changedPositions = []) : Saved i f row version n stored (.ok (), i) row
  /-- the version cannot be counted up -/
  | exhausted (some : i.changedPositions ≠ []) (last : ¬n < Int64.maxValue) :
    Saved i f row version n stored (.error f.exhausted, i) row
  /-- the row has another version -/
  | stale (some : i.changedPositions ≠ []) (lt : n < Int64.maxValue) (other : stored ≠ n) :
    Saved i f row version n stored (.error i.stale, i) row
  /-- the row is updated; copy and row get the next version -/
  | written {j : Instance} {row' : StoredRow} (some : i.changedPositions ≠ []) (lt : n < Int64.maxValue)
    (same : stored = n) (copy : j.IsCopy i.entity row' version (n + 1)) (keeps : row'.Keeps i.model version (n + 1))
    (key : ∀ p ∈ i.model.key, row'.cells[p]? = row.cells[p]?) (database : row'.database = row.database)
    (counted : row'.updates = row.updates + 1) : Saved i f row version n stored (.ok (), j) row'

theorem positionsToWrite_ok {names : List String} (h : ∀ name ∈ names, ∃ p, i.model.position name = .ok p) :
    ∃ ps, i.positionsToWrite names = .ok ps := by
  unfold positionsToWrite
  generalize i.changedPositions = ps
  induction names generalizing ps with
  | nil => exact ⟨ps, rfl⟩
  | cons name names ih =>
    obtain ⟨p, hp⟩ := h name List.mem_cons_self
    obtain ⟨qs, hq⟩ := ih (fun other ho => h other (List.mem_cons_of_mem _ ho)) (if ps.contains p then ps else ps ++ [p])
    refine ⟨qs, ?_⟩
    rw [List.foldlM_cons, hp]
    exact hq

theorem toInt_next (lt : n < Int64.maxValue) : (n + 1).toInt = n.toInt + 1 := by
  have lower := n.le_toInt
  have upper := Int64.lt_iff_toInt_lt.mp lt
  rw [Int64.toInt_maxValue] at upper
  rw [Int64.toInt_add, Int64.toInt_one, Int.bmod_def]
  omega

/-- the version is among the positions that an update writes -/
theorem version_mem_withAutomatic (hm : i.model.Versioned version) (lt : n < Int64.maxValue)
    (before : i.values[version]? = some (.int n)) (after : values[version]? = some (.int (n + 1)))
    (positions : List Nat) : version ∈ withAutomatic i (i.withValues values) positions := by
  have differs : Value.same (.int (n + 1)) (.int n) = false := by
    have next := toInt_next lt
    rw [Value.same, beq_eq_false_iff_ne]
    intro same
    rw [same] at next
    omega
  have filled : (i.withValues values).valueAt version = .int (n + 1) := valueAt_of_getElem after
  simp [withAutomatic, hm.lt_length, hm.mem_automatic, filled, valueAt_of_getElem before, differs]

theorem lt_of_mem_withAutomatic {j : Instance} {positions : List Nat} {p : Nat}
    (h : p ∈ withAutomatic i j positions) : p < i.model.fields.length :=
  List.mem_range.mp (List.mem_filter.mp h).1

/-- an update asks for its statement to be executed -/
theorem run_update {mapper : Mapper} (isFor : mapper.IsFor e row.database) {j : Instance}
    {conditions : List (Nat × Value)} {parameters : List Value}
    (hp : Mapper.updateParameters j fields conditions = .ok parameters) (active : Active) :
    ∃ mapper', mapper'.IsFor e row.database ∧
      Dialogue.run StoredRow.answer row (mapper.update active j fields conditions) =
        let done := row.execute (e.model.updateRow fields (conditions.map Prod.fst)).text parameters
        ((done.1, mapper'), done.2) := by
  obtain ⟨text, isFor'⟩ := isFor.updating ⟨fields, conditions.map Prod.fst⟩
  refine ⟨_, isFor', ?_⟩
  have same : (mapper.updating ⟨fields, conditions.map Prod.fst⟩).2.database = row.database := isFor'.database
  simp only [Mapper.update, hp, text, same]
  rw [Dialogue.run_bind, StoredRow.run_execute, Dialogue.run_pure]

/-- the parameters of an update: the fields, the key and the version observed -/
theorem updateParameters_ok (hm : e.model.Versioned version) (entity : i.entity = e)
    (stores : e.model.Stores i.values fields cells) {key : List Value}
    (stored : e.model.Stores i.values e.model.key key) :
    Mapper.updateParameters i fields [(version, .int n)] = .ok (cells ++ (key ++ [.int n])) := by
  obtain ⟨f, hf, kind⟩ := hm.field
  have counter : Mapper.parameter e version (.int n) = .ok (.int n) := by
    rw [Mapper.parameter, hf]
    exact Field.toStorage_counter kind n
  have model : i.model = e.model := congrArg Entity.model entity
  simp only [Mapper.updateParameters, model, parameters_of_stores entity stores, parameters_of_stores entity stored,
    entity, List.mapM_cons, counter, List.mapM_nil]
  exact congrArg Except.ok (List.append_assoc ..)

/-- what a copy has observed is what its update compares -/
theorem IsCopy.updateConditions_eq (h : i.IsCopy e row version n) (hm : e.model.Versioned version)
    (names : List String) : i.updateConditions { fields := names } = [(version, .int n)] := by
  obtain ⟨old, snapshot, there⟩ := h.observed
  simp [updateConditions, observedVersion, h.model, hm.counter, snapshot, there]

/-- an update writes just if the row has the version compared -/
theorem execute_update (hm : e.model.Versioned version) (entity : i.entity = e) (hr : row.Keeps e.model version stored)
    (copies : e.model.Copies row version k i.values) (inside : ∀ p ∈ fields, p < e.model.fields.length)
    (mem : version ∈ fields) (n : Int64) :
    ∃ cells parameters, e.model.Stores i.values fields cells ∧
      Mapper.updateParameters i fields [(version, .int n)] = .ok parameters ∧
      row.execute (e.model.updateRow fields [version]).text parameters =
        if stored = n then (.ok 1, row.updated (fields.zip cells)) else (.ok 0, row) := by
  obtain ⟨cells, stores⟩ := copies.stores inside
  obtain ⟨key, keyStores⟩ := copies.stores hm.key_lt
  refine ⟨cells, _, stores, updateParameters_ok hm entity stores keyStores, ?_⟩
  have executed := StoredRow.execute_updateRow hr.toIsOf hm.toSound [version] (key ++ [.int n]) inside
    (by simpa using hm.lt_length) (List.ne_nil_of_mem mem) (by simp) stores.length_eq (by simp [keyStores.length_eq])
  exact executed.trans (if_congr (agrees_key hr copies keyStores) rfl rfl)

/-- what becomes of a copy that has changed -/
theorem IsCopy.run_updateRow (h : i.IsCopy e row version n) (hm : e.model.Versioned version) {f : Field}
    (hf : e.model.fields[version]? = some f) (hr : row.Keeps e.model version stored) {mapper : Mapper}
    (isFor : mapper.IsFor e row.database) (some : i.changedPositions ≠ []) (positions : List Nat)
    (names : List String) (active : Active) (now : Instant) :
    ∃ result mapper' row', Dialogue.run StoredRow.answer row
        (i.updateRow mapper active now { fields := names } positions) = ((result, mapper'), row') ∧
      mapper'.IsFor e row.database ∧ Saved i f row version n stored result row' := by
  by_cases lt : n < Int64.maxValue
  · obtain ⟨values, filled, copies⟩ := h.filledIn_ok hm lt now
    let fields := withAutomatic i (i.withValues values) positions
    have updates : i.updateRow mapper active now { fields := names } positions =
        (mapper.update active (i.withValues values) fields [(version, .int n)] >>= fun x =>
          pure (concluded i (i.withValues values) x.1, x.2)) := by
      simp only [updateRow, prepared, Bool.false_eq_true, if_false, filled, h.updateConditions_eq hm names, fields]
    have mem : version ∈ fields :=
      version_mem_withAutomatic (h.model ▸ hm) lt h.values.counter copies.counter positions
    have inside : ∀ p ∈ fields, p < e.model.fields.length := fun p hp => h.model ▸ lt_of_mem_withAutomatic hp
    obtain ⟨cells, parameters, stores, hp, executed⟩ :=
      execute_update (i := i.withValues values) hm h.entity hr copies inside mem n
    obtain ⟨mapper', isFor', run⟩ := run_update isFor hp active
    rw [updates, Dialogue.run_bind, run]
    simp only [List.map_cons, List.map_nil, executed]
    by_cases same : stored = n
    · obtain ⟨keeps, key⟩ := hr.updated hm copies stores mem
      have copy : ((i.withValues values).synchronized).IsCopy e (row.updated (fields.zip cells)) version (n + 1) :=
        ⟨h.entity, h.persisted, h.database, copies.of_key key, values, rfl, copies.counter⟩
      rw [if_pos same]
      exact ⟨_, _, _, rfl, isFor', .written some lt same (h.entity ▸ copy) (h.model ▸ keeps) (h.model ▸ key) rfl rfl⟩
    · rw [if_neg same]
      exact ⟨_, _, _, rfl, isFor', .stale some lt same⟩
  · have fails : i.updateRow mapper active now { fields := names } positions =
        pure ((.error f.exhausted, i), mapper) := by
      simp only [updateRow, prepared, Bool.false_eq_true, if_false, h.filledIn_error hm hf lt now]
    rw [fails]
    exact ⟨_, _, _, rfl, isFor, .exhausted some lt⟩

/-- **Every save of a copy ends in one of these ways.** -/
theorem IsCopy.saved (h : i.IsCopy e row version n) (hm : e.model.Versioned version) {f : Field}
    (hf : e.model.fields[version]? = some f) (hr : row.Keeps e.model version stored) {r : Registry}
    (hs : r.Serves e row.database) {names : List String} (known : ∀ name ∈ names, ∃ p, e.model.position name = .ok p)
    (active : Active) (now : Instant) :
    ∃ result r' row', Dialogue.run StoredRow.answer row (i.saveWith active now { fields := names } r) =
        ((result, r'), row') ∧ r'.Serves e row.database ∧ Saved i f row version n stored result row' := by
  by_cases none : i.changedPositions = []
  · refine ⟨_, r, row, ?_, hs, .unchanged none⟩
    simp only [saveWith, none, List.isEmpty_nil, if_true]
    rfl
  · obtain ⟨positions, hpos⟩ := positionsToWrite_ok (i := i) (h.model ▸ known)
    obtain ⟨mapper, r', found, isFor, serves⟩ := hs.mapper
    have start : i.saveWith active now { fields := names } r =
        (i.updateRow mapper active now { fields := names } positions >>= fun x => pure (x.1, r'.keep x.2)) := by
      simp only [saveWith, List.isEmpty_iff, none, if_false, hpos, h.entity, h.database, found, h.persisted, if_true]
    obtain ⟨result, mapper', row', run, isFor', saved⟩ := h.run_updateRow hm hf hr isFor none positions names active now
    refine ⟨result, r'.keep mapper', row', ?_, serves.keep isFor', saved⟩
    rw [start, Dialogue.run_bind, run, Dialogue.run_pure]

end Instance

end Tabula
