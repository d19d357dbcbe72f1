import Tabula.Proofs.Instance.FailedSave
import Tabula.Proofs.Transcript
import Tabula.Query.Manager
/-!
# What the operations on instances give

How an operation leaves its instance, and what it gives, whatever the registry holds and however the calls on databases
are answered.  A save that succeeds leaves the instance with as many values as before and a snapshot of them, unless
nothing was to be written; what is fetched is made of the cells of a row, one for each field.
-/

namespace Tabula

open Dialogue (Always)

/-! ## Lengths -/

namespace Instance

/-- whether an instance is one of an entity, with a value for each field -/
structure IsOf (i : Instance) (e : Entity) : Prop where
  entity : i.entity = e
  length : i.values.length = e.model.fields.length

variable {i j filled : Instance} {now : Instant} {options : SaveOptions}

theorem IsVariant.eq_withValues (h : i.IsVariant j) : j = i.withValues j.values := by
  obtain ⟨vs, rfl⟩ := h
  rfl

@[simp] theorem length_withAt (i : Instance) (p : Nat) (v : Value) :
    (i.withAt p v).values.length = i.values.length :=
  List.length_set

theorem valueAt_withAt_self {p : Nat} (h : p < i.values.length) (v : Value) : (i.withAt p v).valueAt p = v := by
  simp [valueAt, withAt, List.getD_eq_getElem?_getD, List.getElem?_set_self h]

theorem valueAt_withAt_ne {p q : Nat} (h : p ≠ q) (v : Value) : (i.withAt p v).valueAt q = i.valueAt q := by
  simp [valueAt, withAt, List.getD_eq_getElem?_getD, List.getElem?_set_ne h]

theorem valueAt_withAt_cases (i : Instance) (p q : Nat) (v : Value) :
    (i.withAt p v).valueAt q = i.valueAt q ∨ p = q ∧ (i.withAt p v).valueAt q = v := by
  by_cases same : p = q
  · subst same
    by_cases inside : p < i.values.length
    · exact .inr ⟨rfl, valueAt_withAt_self inside v⟩
    · left
      simp [valueAt, withAt, List.set_eq_of_length_le (Nat.le_of_not_lt inside)]
  · exact .inl (valueAt_withAt_ne same v)

theorem length_foldl (i : Instance) (pairs : List (Nat × Value)) :
    (pairs.foldl (fun i v => i.withAt v.1 v.2) i).values.length = i.values.length := by
  induction pairs generalizing i with
  | nil => rfl
  | cons v rest ih => rw [List.foldl_cons, ih, length_withAt]

theorem length_filledIn (h : i.filledIn now = .ok filled) : filled.values.length = i.values.length := by
  obtain ⟨pairs, _, h⟩ := Outcome.bind_ok.mp h
  obtain rfl := Outcome.pure_ok.mp h
  exact i.length_foldl pairs

theorem length_prepared (h : i.prepared now options = .ok filled) : filled.values.length = i.values.length := by
  unfold prepared at h
  split at h
  · injection h with h
    rw [h]
  · exact length_filledIn h

theorem length_readBack (i : Instance) (cells : List Value) (positions : List Nat) :
    (Mapper.readBack i cells positions).2.values.length = i.values.length := by
  induction positions generalizing i cells with
  | nil => rfl
  | cons p rest ih =>
    unfold Mapper.readBack
    split
    · exact ih _ _
    · split
      · rfl
      · rw [ih, length_withAt]

/-- after reading back, a value is the one before or one that its field has accepted -/
theorem valueAt_reads {cells : List Value} {positions : List Nat}
    (reads : Mapper.readBack i cells positions = (.ok (), j)) (p : Nat) :
    j.valueAt p = i.valueAt p ∨ ∃ f c, i.model.fields[p]? = some f ∧ f.accept c = .ok (j.valueAt p) := by
  induction positions generalizing i cells with
  | nil =>
    cases reads
    exact .inl rfl
  | cons q rest ih =>
    unfold Mapper.readBack at reads
    split at reads
    · exact ih reads
    · next f hf =>
      split at reads
      · cases reads
      · next v accepted =>
        rcases ih reads with same | ⟨g, c, hg, read⟩
        · rcases i.valueAt_withAt_cases q p v with kept | ⟨rfl, set⟩
          · exact .inl (same.trans kept)
          · exact .inr ⟨f, _, hf, by rw [same, set]; exact accepted⟩
        · exact .inr ⟨g, c, hg, read⟩

/-- what is inserted differs from what was to be inserted in values only -/
theorem isVariant_inserted (fills : i.filledIn now = .ok filled) {cells : List Value} {positions : List Nat}
    (reads : Mapper.readBack filled cells positions = (.ok (), j)) : i.IsVariant j := by
  have variant := filled.isVariant_readBack cells positions
  rw [reads] at variant
  exact (isVariant_filledIn fills).trans variant

theorem length_inserted (fills : i.filledIn now = .ok filled) {cells : List Value} {positions : List Nat}
    (reads : Mapper.readBack filled cells positions = (.ok (), j)) : j.values.length = i.values.length := by
  have length := filled.length_readBack cells positions
  rw [reads] at length
  exact length.trans (length_filledIn fills)

end Instance

/-- an insertion that succeeds reads back what the database made -/
theorem Mapper.always_reads_insert (m : Mapper) (active : Active) (i : Instance) :
    Always (fun x => x.1.1 = .ok () → ∃ cells positions, readBack i cells positions = (.ok (), x.1.2))
      (m.insert active i) := by
  unfold insert
  simp only
  split
  · exact fun ok => by simp at ok
  · split
    · rw [Dialogue.always_bind]
      exact fun answer ok => ⟨[], [], rfl⟩
    · rw [Dialogue.always_bind]
      intro answer
      match answer with
      | .error e => exact fun ok => by simp at ok
      | .ok [] => exact fun ok => by simp [failure] at ok
      | .ok (row :: _) => exact fun ok => ⟨row.values, m.model.returningPositions, Prod.ext ok rfl⟩

/-! ## Setting fields -/

namespace Instance

variable {i j : Instance} {name : String} {v : Value}

/-- a field that is set gets what it makes of the value; in the key of a stored row that is what it was -/
theorem set_ok (h : i.set name v = .ok j) : ∃ p f w, i.model.position name = .ok p ∧ i.model.fields[p]? = some f ∧
    f.accept v = .ok w ∧ j = i.withAt p w ∧
      (i.persisted = true → p ∈ i.model.key → w.same (i.valueAt p) = true) := by
  obtain ⟨p, found, h⟩ := Outcome.bind_ok.mp h
  split at h
  · simp [failure] at h
  · next f hf =>
    obtain ⟨w, accepted, h⟩ := Outcome.bind_ok.mp h
    cases refused : refusesNull f w with
    | true =>
      simp only [refused, if_true] at h
      obtain ⟨_, thrown, _⟩ := Outcome.bind_ok.mp h
      cases thrown
    | false =>
      simp only [refused, Bool.false_eq_true, if_false] at h
      split at h
      · simp [failure] at h
      · next allowed =>
        obtain rfl := Outcome.pure_ok.mp h
        refine ⟨p, f, w, found, hf, accepted, rfl, fun stored mem => ?_⟩
        simpa [stored, mem] using allowed

/-- a field set in place; an instance that refuses the value stays as it is -/
def assigned (i : Instance) (name : String) (v : Value) : Outcome Unit × Instance :=
  match i.set name v with
  | .ok j => (.ok (), j)
  | .error e => (.error e, i)

/-- every instance that an assignment leaves is one that was set, or the one before -/
theorem assigned_cases (i : Instance) (name : String) (v : Value) :
    (∃ j, i.set name v = .ok j ∧ i.assigned name v = (.ok (), j)) ∨ ∃ e, i.assigned name v = (.error e, i) := by
  unfold assigned
  cases i.set name v with
  | ok j => exact .inl ⟨j, rfl, rfl⟩
  | error e => exact .inr ⟨e, rfl⟩

end Instance

/-! ## Saving -/

namespace Instance

/-- what a save that succeeds gives, by the steps that make it -/
inductive Completed (i : Instance) (now : Instant) (options : SaveOptions) : Instance → Prop where
  | unchanged (clean : i.changedPositions = []) : Completed i now options i
  | inserted {filled j : Instance} {cells : List Value} {positions : List Nat} (new : i.persisted = false)
    (fills : i.filledIn now = .ok filled) (reads : Mapper.readBack filled cells positions = (.ok (), j)) :
    Completed i now options (j.storedIn i.databaseName)
  | updated {filled : Instance} (stored : i.persisted = true) (prepares : i.prepared now options = .ok filled) :
    Completed i now options filled.synchronized

theorem always_completed_insertRow (i : Instance) (new : i.persisted = false) (m : Mapper) (active : Active)
    (now : Instant) (options : SaveOptions) :
    Always (fun x => x.1.1 = .ok () → i.Completed now options x.1.2) (i.insertRow m active now) := by
  unfold insertRow
  split
  · exact fun ok => by simp at ok
  · next filled fills =>
    split
    · exact fun ok => by simp at ok
    · rw [Dialogue.always_bind]
      refine (m.always_reads_insert active filled).mono ?_
      rintro ⟨⟨answer, j⟩, m⟩ reads
      cases answer with
      | error e => exact fun ok => by simp at ok
      | ok _ =>
        intro _
        obtain ⟨cells, positions, reads⟩ := reads rfl
        exact .inserted new fills reads

theorem completed_concluded {i filled : Instance} {now : Instant} {options : SaveOptions} (stored : i.persisted = true)
    (prepares : i.prepared now options = .ok filled) {answer : Outcome Nat}
    (ok : (concluded i filled answer).1 = .ok ()) : i.Completed now options (concluded i filled answer).2 := by
  match answer with
  | .error e => simp [concluded] at ok
  | .ok 0 => simp [concluded] at ok
  | .ok (n + 1) => exact .updated stored prepares

theorem always_completed_updateRow (i : Instance) (stored : i.persisted = true) (m : Mapper) (active : Active)
    (now : Instant) (options : SaveOptions) (positions : List Nat) :
    Always (fun x => x.1.1 = .ok () → i.Completed now options x.1.2)
      (i.updateRow m active now options positions) := by
  unfold updateRow
  split
  · exact fun ok => by simp at ok
  · next filled prepares =>
    rw [Dialogue.always_bind]
    refine .of_forall ?_ _
    rintro ⟨answer, m⟩ ok
    exact completed_concluded stored prepares ok

theorem always_completed (i : Instance) (active : Active) (now : Instant) (options : SaveOptions) (r : Registry) :
    Always (fun x => x.1.1 = .ok () → i.Completed now options x.1.2) (i.saveWith active now options r) := by
  unfold saveWith
  split
  · next clean => exact fun _ => .unchanged (List.isEmpty_iff.mp clean)
  · split
    · exact fun ok => by simp at ok
    · split
      · exact fun ok => by simp at ok
      · simp only
        split
        · next stored =>
          rw [Dialogue.always_bind]
          exact i.always_completed_updateRow stored ..
        · next new =>
          rw [Dialogue.always_bind]
          exact i.always_completed_insertRow (Bool.not_eq_true _ ▸ new) ..

/-- what a save that succeeds gives, by its values -/
inductive Written (i : Instance) : Instance → Prop where
  | unchanged (clean : i.changedPositions = []) : Written i i
  | inserted (values : List Value) (length : values.length = i.values.length) (new : i.persisted = false) :
    Written i ((i.withValues values).storedIn i.databaseName)
  | updated (values : List Value) (length : values.length = i.values.length) (stored : i.persisted = true) :
    Written i (i.withValues values).synchronized

theorem Completed.written {now : Instant} {options : SaveOptions} {i j : Instance} (h : i.Completed now options j) :
    i.Written j := by
  cases h with
  | unchanged clean => exact .unchanged clean
  | inserted new fills reads =>
    rw [(isVariant_inserted fills reads).eq_withValues]
    exact .inserted _ (length_inserted fills reads) new
  | @updated filled stored prepares =>
    rw [(isVariant_prepared prepares).eq_withValues]
    exact .updated filled.values (length_prepared prepares) stored

theorem always_written (i : Instance) (active : Active) (now : Instant) (options : SaveOptions) (r : Registry) :
    Always (fun x => x.1.1 = .ok () → i.Written x.1.2) (i.saveWith active now options r) :=
  (i.always_completed active now options r).mono fun _ completed ok => (completed ok).written

/-! ## Deleting and refreshing -/

/-- an instance is forgotten by its deletion, unless that fails -/
theorem always_delete (i : Instance) (active : Active) (r : Registry) :
    Always (fun x => (∀ e, x.1.1 = .error e → x.1.2 = i) ∧
      ∀ n, x.1.1 = .ok n → x.1.2 = { i with persisted := false, snapshot := none }) (i.delete active r) := by
  unfold delete
  split
  · exact ⟨fun _ _ => rfl, fun n ok => by simp [failure] at ok⟩
  · rw [Dialogue.always_bind]
    refine .of_forall ?_ _
    rintro ⟨answer, r'⟩
    cases answer with
    | ok n => exact ⟨fun e failed => by simp at failed, fun _ _ => rfl⟩
    | error e => exact ⟨fun _ _ => rfl, fun n ok => by simp at ok⟩

end Instance

/-! ## Fetching -/

namespace Instance

variable {e : Entity} {database : String} {raw : List Value} {i : Instance}

/-- a row with a cell for each field makes a stored instance, the cells converted -/
theorem ofRow_ok (h : ofRow e database raw = .ok i) : raw.length = e.model.fields.length ∧
    ∃ values, (e.model.fields.zip raw).mapM (fun c => c.1.accept c.2) = .ok values ∧
      i = ({ entity := e, values, persisted := true, database := some database } : Instance).synchronized := by
  unfold ofRow at h
  simp only at h
  split at h
  · simp [failure] at h
  · next same =>
    obtain ⟨values, accepted, h⟩ := Outcome.bind_ok.mp h
    obtain rfl := Outcome.pure_ok.mp h
    exact ⟨not_not.mp same, values, accepted, rfl⟩

theorem isOf_ofRow (h : ofRow e database raw = .ok i) : i.IsOf e := by
  obtain ⟨same, values, accepted, rfl⟩ := ofRow_ok h
  have length := (Outcome.mapM_ok.mp accepted).length_eq
  rw [List.length_zip, same, Nat.min_self] at length
  exact ⟨rfl, length.symm⟩

end Instance

/-- work goes on in the registry that it is left with -/
theorem Work.always_bind {α β : Type} {p : β × Registry → Prop} {x : Work α} {f : α → Work β} {r : Registry} :
    Always p ((x >>= f) r) ↔ Always (fun a => Always p (f a.1 a.2)) (x r) :=
  Dialogue.always_bind p (x r) _

namespace Registry

/-- work of a mapper gives what its mapper gives, or the error that there is no mapper -/
theorem always_withMapper {α : Type} {r : Registry} {e : Entity} {name : String}
    {f : Mapper → Talk (Outcome α × Mapper)} {p : Outcome α → Prop} (failed : ∀ err, p (.error err))
    (h : ∀ m r', r.mapper e name = .ok (m, r') → Always (fun x => p x.1) (f m)) :
    Always (fun x => p x.1) (withMapper e name f r) := by
  unfold withMapper
  split
  · exact failed _
  · next m r' found =>
    rw [Dialogue.always_bind]
    exact h m r' found

/-- whether an instance is made of the cells of a row, as the mapper of an entity on the database of a name reads
them -/
def Loads (r : Registry) (e : Entity) (name : String) (i : Instance) : Prop :=
  ∃ m r' raw, r.mapper e name = .ok (m, r') ∧ Instance.ofRow m.entity m.database.name raw = .ok i

end Registry

namespace Mapper

theorem exists_ofRow_of_decode {m : Mapper} {rows : List Row} {instances : List Instance}
    (h : m.decode rows = .ok instances) {i : Instance} (hi : i ∈ instances) :
    ∃ raw, Instance.ofRow m.entity m.database.name raw = .ok i := by
  obtain ⟨row, _, read⟩ := Outcome.exists_of_mem_mapM h hi
  exact ⟨row.values, read⟩

theorem always_load (m : Mapper) (active : Active) (key : List Value) :
    Always (fun x => ∀ i, x.1 = .ok (some i) → ∃ raw, Instance.ofRow m.entity m.database.name raw = .ok i)
      (m.load active key) := by
  unfold load
  split
  · exact fun i hi => by simp [failure] at hi
  · split
    · exact fun i hi => by simp at hi
    · rw [Dialogue.always_bind]
      intro answer i hi
      obtain ⟨instances, decoded, first⟩ := Outcome.map_ok.mp hi
      obtain ⟨rows, _, decoded⟩ := Outcome.bind_ok.mp decoded
      exact exists_ofRow_of_decode decoded (List.mem_of_mem_head? first)

theorem always_select (m : Mapper) (active : Active) (s : Selection) :
    Always (fun x => ∀ instances, x = .ok instances → ∀ i ∈ instances,
      ∃ raw, Instance.ofRow m.entity m.database.name raw = .ok i) (m.select active s) := by
  unfold select run
  split
  · exact fun instances fetched => by simp at fetched
  · rw [Dialogue.always_bind]
    intro answer instances fetched i hi
    obtain ⟨rows, _, decoded⟩ := Outcome.bind_ok.mp fetched
    exact exists_ofRow_of_decode decoded hi

end Mapper

namespace Query

variable {α : Type} {q : Query} {rows xs : List α} {x : α}

theorem mem_of_single (h : q.single rows = .ok (some x)) : x ∈ rows := by
  match rows with
  | [] =>
    simp only [single] at h
    split at h <;> simp at h
  | [row] =>
    simp only [single, Except.ok.injEq, Option.some.injEq] at h
    exact h ▸ List.mem_cons_self
  | row :: _ :: _ =>
    simp only [single] at h
    split at h
    · simp at h
    · simp only [Except.ok.injEq, Option.some.injEq] at h
      exact h ▸ List.mem_cons_self

theorem mem_of_results (h : q.results rows = .ok xs) (hx : x ∈ xs) : x ∈ rows := by
  unfold results at h
  split at h
  · obtain ⟨found, single, rfl⟩ := Outcome.map_ok.mp h
    exact mem_of_single (Option.mem_toList.mp hx ▸ single)
  · injection h with h
    exact h ▸ hx

theorem mem_of_one (h : q.one rows = .ok x) : x ∈ rows := by
  obtain ⟨found, single, h⟩ := Outcome.bind_ok.mp h
  cases found with
  | none => simp at h
  | some row => exact Outcome.pure_ok.mp h ▸ mem_of_single single

theorem always_fetch (q : Query) (active : Active) (s : Selection) (r : Registry) :
    Always (fun x => ∀ instances, x.1 = .ok instances → ∀ i ∈ instances, r.Loads q.entity q.databaseName i)
      (q.fetch active s r) := by
  let p : Outcome (List Instance) → Prop := fun x =>
    ∀ instances, x = .ok instances → ∀ i ∈ instances, r.Loads q.entity q.databaseName i
  refine Registry.always_withMapper (p := p) (fun err instances fetched => by simp at fetched) fun m r' found => ?_
  rw [Dialogue.always_bind]
  refine (m.always_select active s).mono fun answer h instances fetched i hi => ?_
  obtain ⟨raw, read⟩ := h instances fetched i hi
  exact ⟨m, r', raw, found, read⟩

end Query

/-- what a key leads to is made of the cells of a row -/
theorem Registry.always_withMapper_load (r : Registry) (e : Entity) (name : String) (active : Active)
    (key : List Value) : Always (fun x => ∀ i, x.1 = .ok (some i) → r.Loads e name i)
      (withMapper e name (fun m => m.load active key) r) := by
  let p : Outcome (Option Instance) → Prop := fun x => ∀ i, x = .ok (some i) → r.Loads e name i
  refine always_withMapper (p := p) (fun err i found => by simp at found) fun mapper r' kept => ?_
  refine (mapper.always_load active key).mono fun x h i found => ?_
  obtain ⟨raw, read⟩ := h i found
  exact ⟨mapper, r', raw, kept, read⟩

/-- an instance gets the values of its row by a refresh, unless that fails -/
theorem Instance.always_refresh (i : Instance) (active : Active) (r : Registry) :
    Always (fun x => (∀ e, x.1.1 = .error e → x.1.2 = i) ∧ (x.1.1 = .ok () →
      ∃ fresh, r.Loads i.entity i.databaseName fresh ∧ x.1.2 = i.refreshedFrom fresh)) (i.refresh active r) := by
  unfold refresh
  rw [Dialogue.always_bind]
  refine (r.always_withMapper_load i.entity i.databaseName active i.keyValues).mono ?_
  rintro ⟨answer, r'⟩ loads
  match answer with
  | .error e => exact ⟨fun _ _ => rfl, fun ok => by simp at ok⟩
  | .ok none => exact ⟨fun _ _ => rfl, fun ok => by simp [failure] at ok⟩
  | .ok (some fresh) => exact ⟨fun e failed => by simp at failed, fun _ => ⟨fresh, loads fresh rfl, rfl⟩⟩

theorem Manager.always_loadKey (m : Manager) (active : Active) (key : List Value) (r : Registry) :
    Always (fun x => ∀ i, x.1 = .ok i → r.Loads m.entity m.databaseName i) (m.loadKey active key r) := by
  unfold loadKey
  rw [Work.always_bind]
  refine (r.always_withMapper_load m.entity m.databaseName active key).mono fun x h i found => ?_
  obtain ⟨loaded, hl, hi⟩ := Outcome.bind_ok.mp found
  cases loaded with
  | none => simp [failure] at hi
  | some j =>
    injection hi with hi
    exact hi ▸ h j hl

theorem Manager.readied_iff {now : Instant} {i filled : Instance} :
    readied now i = .ok filled ↔ i.filledIn now = .ok filled ∧ filled.checkRequired = .ok () := by
  rw [readied, Outcome.bind_ok]
  constructor
  · rintro ⟨_, fills, checked⟩
    obtain ⟨_, required, same⟩ := Outcome.bind_ok.mp checked
    exact Outcome.pure_ok.mp same ▸ ⟨fills, required⟩
  · rintro ⟨fills, required⟩
    exact ⟨filled, fills, Outcome.bind_ok.mpr ⟨(), required, rfl⟩⟩

/-- what is inserted with others is stored as it was filled in -/
theorem Manager.always_fills_bulkCreate (m : Manager) (active : Active) (now : Instant) (instances : List Instance)
    (r : Registry) : Always (fun x => ∀ made, x.1 = .ok made → ∀ i ∈ made, ∃ j filled, j ∈ instances ∧
      j.filledIn now = .ok filled ∧ i = filled.storedIn m.databaseName) (m.bulkCreate active now instances r) := by
  unfold bulkCreate
  cases readied : instances.mapM (Manager.readied now) with
  | error err => exact fun made ok => by cases ok
  | ok ready =>
    simp only
    rw [Work.always_bind]
    refine .of_forall ?_ _
    rintro ⟨inserted, r'⟩ made ok i hi
    obtain ⟨_, _, rfl⟩ := Outcome.map_ok.mp ok
    obtain ⟨filled, hf, rfl⟩ := List.mem_map.mp hi
    obtain ⟨j, hj, prepared⟩ := Outcome.exists_of_mem_mapM readied hf
    exact ⟨j, filled, hj, (readied_iff.mp prepared).1, rfl⟩

/-- it is stored with as many values as before -/
theorem Manager.always_bulkCreate (m : Manager) (active : Active) (now : Instant) (instances : List Instance)
    (r : Registry) : Always (fun x => ∀ made, x.1 = .ok made → ∀ i ∈ made, ∃ j values, j ∈ instances ∧
      values.length = j.values.length ∧ i = (j.withValues values).storedIn m.databaseName)
      (m.bulkCreate active now instances r) := by
  refine (m.always_fills_bulkCreate active now instances r).mono fun x fills made ok i hi => ?_
  obtain ⟨j, filled, hj, filledIn, rfl⟩ := fills made ok i hi
  refine ⟨j, filled.values, hj, Instance.length_filledIn filledIn, ?_⟩
  rw [← (Instance.isVariant_filledIn filledIn).eq_withValues]

/-- the operations that make instances of rows that are stored -/
inductive Retrieval where
  | fetchAll (q : Query)
  | fetchOne (q : Query)
  | fetchOptional (q : Query)
  | load (m : Manager) (key : Value)
  | getByKey (m : Manager) (named : List (String × Value))

namespace Retrieval

def entity : Retrieval → Entity
  | fetchAll q | fetchOne q | fetchOptional q => q.entity
  | load m _ | getByKey m _ => m.entity

def databaseName : Retrieval → String
  | fetchAll q | fetchOne q | fetchOptional q => q.databaseName
  | load m _ | getByKey m _ => m.databaseName

/-- does an operation and gives the instances that it makes -/
def run (active : Active) : Retrieval → Work (Outcome (List Instance))
  | fetchAll q => q.fetchAll active
  | fetchOne q => do return (← q.fetchOne active).map fun i => [i]
  | fetchOptional q => do return (← q.fetchOptional active).map Option.toList
  | load m key => do return (← m.load active key).map fun i => [i]
  | getByKey m named => do return (← m.getByKey active named).map fun i => [i]

/-- what is made from one instance -/
theorem forall_of_single {p : Instance → Prop} {x : Outcome Instance} (h : ∀ i, x = .ok i → p i) :
    ∀ instances, x.map (fun i => [i]) = .ok instances → ∀ i ∈ instances, p i := by
  intro instances ok i hi
  obtain ⟨j, hj, rfl⟩ := Outcome.map_ok.mp ok
  exact List.mem_singleton.mp hi ▸ h j hj

/-- **Whatever is retrieved is made of the cells of a row.** -/
theorem always_loads (how : Retrieval) (active : Active) (r : Registry) :
    Always (fun x => ∀ instances, x.1 = .ok instances → ∀ i ∈ instances, r.Loads how.entity how.databaseName i)
      (how.run active r) := by
  cases how with
  | fetchAll q =>
    unfold run Query.fetchAll
    rw [Work.always_bind]
    refine (q.always_fetch active q.capped r).mono fun x h instances ok i hi => ?_
    obtain ⟨rows, fetched, ok⟩ := Outcome.bind_ok.mp ok
    exact h rows fetched i (Query.mem_of_results ok hi)
  | fetchOne q =>
    unfold run Query.fetchOne
    rw [Work.always_bind, Work.always_bind]
    refine (q.expectingOne.always_fetch active _ r).mono fun x h => forall_of_single fun i ok => ?_
    obtain ⟨rows, fetched, ok⟩ := Outcome.bind_ok.mp ok
    exact h rows fetched i (Query.mem_of_one ok)
  | fetchOptional q =>
    unfold run Query.fetchOptional
    rw [Work.always_bind, Work.always_bind]
    refine (q.first.always_fetch active _ r).mono fun x h instances ok i hi => ?_
    obtain ⟨found, single, rfl⟩ := Outcome.map_ok.mp ok
    obtain ⟨rows, fetched, single⟩ := Outcome.bind_ok.mp single
    exact h rows fetched i (Query.mem_of_single (Option.mem_toList.mp hi ▸ single))
  | load m key =>
    unfold run Manager.load
    rw [Work.always_bind]
    exact (m.always_loadKey active _ r).mono fun x h => forall_of_single h
  | getByKey m named =>
    unfold run Manager.getByKey
    rw [Work.always_bind]
    cases Manager.namedKey m.entity.model named with
    | error err => exact fun instances ok => by cases ok
    | ok key => exact (m.always_loadKey active key r).mono fun x h => forall_of_single h

end Retrieval

end Tabula
