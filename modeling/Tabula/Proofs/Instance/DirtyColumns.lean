import Tabula.Proofs.Instance.Bookkeeping
/-!
# The columns that a save writes

A save of a stored instance asks for one update at most: `Instance.says_saveWith`.  The update writes what differs from
the snapshot, what is asked for by name and, unless the save is forced, what the automatic step has changed, each once
and in the order of the fields; it compares the key and, unless the save is forced, the version of the snapshot:
`Held.writes_dirty`.
-/

namespace Tabula

open Sql (RowStatement)

/-! ## Statements -/

namespace Mapper

variable {m m' : Mapper} {e : Entity} {on : Database} {number : Nat} {used : List UpdateShape} {active : Active}
  {i : Instance} {t : List (Dialogue.Exchange Call Call.Answer)} {answer : Outcome Nat}

/-- an update is one statement, or none if something cannot be stored -/
theorem says_update (kept : m.Keeps e on number used) {fields : List Nat} {conditions : List (Nat × Value)}
    (said : (m.update active i fields conditions).Says t (answer, m')) :
    (t = [] ∧ ∃ err, updateParameters i fields conditions = .error err ∧ answer = .error err) ∨
      ∃ parameters, updateParameters i fields conditions = .ok parameters ∧
        t = [⟨.execute on (on.pinned active) (e.model.updateRow fields (conditions.map Prod.fst)).text parameters,
          answer⟩] := by
  obtain ⟨text, kept'⟩ := kept.updating ⟨fields, conditions.map Prod.fst⟩
  unfold Mapper.update at said
  simp only [text, kept'.database] at said
  split at said
  · next err failed =>
    obtain ⟨silent, same⟩ := Dialogue.says_pure.mp said
    cases same
    exact .inl ⟨silent, err, failed, rfl⟩
  · next parameters bound =>
    obtain ⟨reply, back, rfl, rest⟩ := Dialogue.says_ask.mp said
    obtain ⟨rfl, same⟩ := Dialogue.says_pure.mp rest
    cases same
    exact .inr ⟨parameters, bound, rfl⟩

/-- and so is a deletion -/
theorem says_delete (kept : m.Keeps e on number used) (said : (m.delete active i).Says t (answer, m')) :
    (t = [] ∧ ∃ err, parameters i e.model.key = .error err ∧ answer = .error err) ∨
      ∃ bound, parameters i e.model.key = .ok bound ∧
        t = [⟨.execute on (on.pinned active) e.model.deleteRow.text bound, answer⟩] := by
  obtain ⟨text, kept'⟩ := kept.deletion
  unfold Mapper.delete at said
  simp only [text, kept'.model, kept'.database] at said
  split at said
  · next err failed =>
    obtain ⟨silent, same⟩ := Dialogue.says_pure.mp said
    cases same
    exact .inl ⟨silent, err, failed, rfl⟩
  · next bound stored =>
    obtain ⟨reply, back, rfl, rest⟩ := Dialogue.says_ask.mp said
    obtain ⟨rfl, same⟩ := Dialogue.says_pure.mp rest
    cases same
    exact .inr ⟨bound, stored, rfl⟩

end Mapper

namespace Instance

/-- the update that a save of a stored instance asks for, by the steps that make it -/
inductive AsksUpdate (i : Instance) (active : Active) (now : Instant) (options : SaveOptions) (on : Database) :
    Dialogue.Exchange Call Call.Answer → Prop where
  | mk {filled : Instance} {positions : List Nat} {parameters : List Value} {answer : Outcome Nat}
    (prepares : i.prepared now options = .ok filled)
    (located : i.positionsToWrite options.fields = .ok positions)
    (bound : Mapper.updateParameters filled (withAutomatic i filled positions) (i.updateConditions options) =
      .ok parameters) :
    AsksUpdate i active now options on ⟨.execute on (on.pinned active)
      (i.model.updateRow (withAutomatic i filled positions) ((i.updateConditions options).map Prod.fst)).text
      parameters, answer⟩

variable {models : Nat → Model} {i : Instance} {r r' : Registry} {active : Active} {now : Instant}
  {options : SaveOptions} {t : List (Dialogue.Exchange Call Call.Answer)} {result : Outcome Unit × Instance}

theorem says_updateRow {m m' : Mapper} {number : Nat} {used : List UpdateShape} {on : Database}
    (kept : m.Keeps i.entity on number used) {positions : List Nat}
    (located : i.positionsToWrite options.fields = .ok positions)
    (said : (i.updateRow m active now options positions).Says t (result, m')) :
    (t = [] ∧ ∃ err, result = (.error err, i)) ∨ ∃ x, t = [x] ∧ i.AsksUpdate active now options on x := by
  unfold updateRow at said
  split at said
  · next err failed =>
    obtain ⟨silent, same⟩ := Dialogue.says_pure.mp said
    cases same
    exact .inl ⟨silent, err, rfl⟩
  · next filled prepares =>
    obtain ⟨⟨answer, m''⟩, asked, same⟩ := Dialogue.says_bind_pure.mp said
    cases same
    rcases Mapper.says_update kept asked with ⟨silent, err, _, rfl⟩ | ⟨parameters, bound, rfl⟩
    · have restored : filled.withValues i.values = i := (isVariant_prepared prepares).restored
      exact .inl ⟨silent, err, congrArg (Prod.mk _) restored⟩
    · exact .inr ⟨_, rfl, .mk prepares located bound⟩

/-- **A save of a stored instance asks for one update at most.**  It asks for none if nothing has changed, and otherwise
only if it fails. -/
theorem says_saveWith (typed : r.Typed models) (numbered : i.entity.IsNumbered models) (stored : i.persisted = true)
    (said : (i.saveWith active now options r).Says t (result, r')) :
    (t = [] ∧ (i.changedPositions ≠ [] → ∃ err, result = (.error err, i))) ∨
      ∃ x m r₁, t = [x] ∧ i.changedPositions ≠ [] ∧ r.mapper i.entity i.databaseName = .ok (m, r₁) ∧
        i.AsksUpdate active now options m.database x := by
  unfold saveWith at said
  split at said
  · next clean =>
    exact .inl ⟨(Dialogue.says_pure.mp said).1, fun dirty => absurd (List.isEmpty_iff.mp clean) dirty⟩
  · next dirty =>
    rw [List.isEmpty_iff] at dirty
    split at said
    · next err _ =>
      obtain ⟨silent, same⟩ := Dialogue.says_pure.mp said
      cases same
      exact .inl ⟨silent, fun _ => ⟨err, rfl⟩⟩
    · next positions located =>
      split at said
      · next err _ =>
        obtain ⟨silent, same⟩ := Dialogue.says_pure.mp said
        cases same
        exact .inl ⟨silent, fun _ => ⟨err, rfl⟩⟩
      · next m r₁ found =>
        obtain ⟨_, _, on, used, kept⟩ := typed.mapper numbered found
        simp only at said
        obtain ⟨⟨result', m'⟩, asked, same⟩ := Dialogue.says_bind_pure.mp said
        cases same
        rcases says_updateRow kept located asked with ⟨silent, failed⟩ | ⟨x, rfl, asks⟩
        · exact .inl ⟨silent, fun _ => failed⟩
        · exact .inr ⟨x, m, r₁, rfl, dirty, found, kept.database.symm ▸ asks⟩

/-! ## Positions -/

/-- the fields that a save has to write, by position: those that differ from the snapshot, those asked for, and those
that the automatic step has changed -/
inductive IsDirty (i filled : Instance) (options : SaveOptions) (p : Nat) : Prop where
  | changed {old : List Value} (taken : i.snapshot = some old) (inside : p < i.model.fields.length)
    (differs : (old.getD p .null).same (i.valueAt p) = false) : IsDirty i filled options p
  | asked {name : String} (mem : name ∈ options.fields) (located : i.model.position name = .ok p) :
    IsDirty i filled options p
  | automatic (unforced : options.force = false) (automatic : p ∈ i.model.automaticPositions)
    (differs : (filled.valueAt p).same (i.valueAt p) = false) : IsDirty i filled options p

variable {filled : Instance} {positions : List Nat} {p : Nat}

theorem mem_changedPositions {old : List Value} (taken : i.snapshot = some old) : p ∈ i.changedPositions ↔
    p < i.values.length ∧ (old.getD p .null).same (i.valueAt p) = false := by
  simp [changedPositions, taken]

theorem mem_withAutomatic : p ∈ withAutomatic i filled positions ↔ p < i.model.fields.length ∧
    (p ∈ positions ∨ p ∈ i.model.automaticPositions ∧ (filled.valueAt p).same (i.valueAt p) = false) := by
  simp [withAutomatic]

/-- what does not equal itself counts as changed -/
theorem mem_changedPositions_of_unequal {old : List Value} (taken : i.snapshot = some old) (inside : p < i.values.length)
    (unequal : (i.valueAt p).same (i.valueAt p) = false) : p ∈ i.changedPositions := by
  refine (mem_changedPositions taken).mpr ⟨inside, ?_⟩
  cases kept : (old.getD p .null).same (i.valueAt p) with
  | false => rfl
  | true =>
    have self := Value.same_trans _ _ _ (Value.same_symm _ _ kept) kept
    rw [unequal] at self
    cases self

/-- **The positions that an update writes are those of the dirty fields.** -/
theorem mem_written_iff {e : Entity} (books : i.Consistent e) (stored : i.persisted = true)
    (prepares : i.prepared now options = .ok filled) (located : i.positionsToWrite options.fields = .ok positions) :
    p ∈ withAutomatic i filled positions ↔ i.IsDirty filled options p := by
  obtain ⟨old, taken⟩ := Option.isSome_iff_exists.mp (books.stored.trans stored)
  have length : i.values.length = i.model.fields.length := books.toIsOf.model ▸ books.length
  have changed := mem_changedPositions (p := p) taken
  rw [length] at changed
  rw [mem_withAutomatic, mem_positionsToWrite located]
  constructor
  · rintro ⟨inside, (dirty | ⟨name, mem, named⟩) | ⟨automatic, differs⟩⟩
    · exact .changed taken inside (changed.mp dirty).2
    · exact .asked mem named
    · cases forced : options.force with
      | false => exact .automatic forced automatic differs
      | true =>
        -- a forced save fills nothing in
        rw [prepared, forced, if_pos rfl] at prepares
        injection prepares with same
        subst same
        have dirty := mem_changedPositions_of_unequal taken (length ▸ inside) differs
        exact .changed taken inside (changed.mp dirty).2
  · intro dirty
    cases dirty with
    | changed taken' inside differs =>
      obtain rfl := Option.some.inj (taken.symm.trans taken')
      exact ⟨inside, .inl (.inl (changed.mpr ⟨inside, differs⟩))⟩
    | asked mem named => exact ⟨Model.lt_of_position named, .inl (.inr ⟨_, mem, named⟩)⟩
    | automatic _ automatic differs => exact ⟨Model.lt_of_mem_positionsWhere automatic, .inr ⟨automatic, differs⟩⟩

theorem pairwise_withAutomatic (i filled : Instance) (positions : List Nat) :
    (withAutomatic i filled positions).Pairwise (· < ·) :=
  List.pairwise_lt_range.sublist List.filter_sublist

/-! ## Parameters -/

/-- the instance with the values of its snapshot -/
def observed (i : Instance) : Instance := i.withValues (i.snapshot.getD i.values)

theorem observed_of_snapshot {old : List Value} (taken : i.snapshot = some old) : i.observed = i.withValues old := by
  rw [observed, taken, Option.getD_some]

/-- where the snapshot is that of the values, nothing else was observed -/
theorem valueAt_observed (taken : i.snapshot = some i.values) (p : Nat) : i.observed.valueAt p = i.valueAt p := by
  rw [observed_of_snapshot taken]
  rfl

/-- what is set leaves what was observed -/
theorem observed_withAt (taken : i.snapshot.isSome = true) (p : Nat) (v : Value) :
    (i.withAt p v).observed = i.observed := by
  obtain ⟨old, taken⟩ := Option.isSome_iff_exists.mp taken
  rw [observed_of_snapshot taken, observed_of_snapshot (i := i.withAt p v) taken]
  rfl

/-- the positions beside the key that a save compares -/
def comparedPositions (i : Instance) (options : SaveOptions) : List Nat :=
  if options.force then [] else i.model.versionPosition?.toList

/-- whether a parameter is the stored form of the value at a position -/
def Binds (i : Instance) (p : Nat) (c : Value) : Prop :=
  ∃ f, i.model.fields[p]? = some f ∧ f.toStorage (i.valueAt p) = .ok c

/-- what an update compares beside the key is what was observed -/
theorem updateConditions_eq (i : Instance) (options : SaveOptions) :
    i.updateConditions options = (i.comparedPositions options).map fun p => (p, i.observed.valueAt p) := by
  unfold updateConditions comparedPositions observedVersion
  split
  · rfl
  · cases i.model.versionPosition? <;> rfl

theorem fst_updateConditions (i : Instance) (options : SaveOptions) :
    (i.updateConditions options).map Prod.fst = i.comparedPositions options := by
  rw [updateConditions_eq, List.map_map]
  exact List.map_id _

theorem lt_of_mem_comparedPositions (h : p ∈ i.comparedPositions options) : p < i.model.fields.length := by
  unfold comparedPositions at h
  split at h
  · exact absurd h List.not_mem_nil
  · exact Model.lt_of_mem_positionsWhere (List.mem_of_head? (Option.mem_toList.mp h))

theorem binds_of_parameter (inside : p < i.model.fields.length) {c : Value}
    (h : Mapper.parameter i.entity p (i.valueAt p) = .ok c) : i.Binds p c := by
  have field : i.entity.model.fields[p]? = some i.entity.model.fields[p] := List.getElem?_eq_getElem inside
  rw [Mapper.parameter, field] at h
  exact ⟨_, field, h⟩

/-- the parameters for some positions are the stored forms of the values there -/
theorem binds_of_parameters {positions : List Nat} (inside : ∀ p ∈ positions, p < i.model.fields.length)
    {parameters : List Value} (h : Mapper.parameters i positions = .ok parameters) :
    List.Forall₂ i.Binds positions parameters := by
  have each := (List.forall₂_and_left (p := fun p => p ∈ positions) _ _).mpr ⟨fun _ hp => hp, Outcome.mapM_ok.mp h⟩
  exact each.imp fun p c ⟨mem, stored⟩ => binds_of_parameter (inside p mem) stored

/-- the parameters of an update: what is written, the key, and what was observed -/
theorem binds_update (sound : i.model.Sound) (variant : i.IsVariant filled) {fields : List Nat}
    (inside : ∀ p ∈ fields, p < i.model.fields.length) {parameters : List Value}
    (bound : Mapper.updateParameters filled fields (i.updateConditions options) = .ok parameters) :
    ∃ written key compared, parameters = written ++ key ++ compared ∧ List.Forall₂ filled.Binds fields written ∧
      List.Forall₂ filled.Binds i.model.key key ∧
      List.Forall₂ i.observed.Binds (i.comparedPositions options) compared := by
  obtain ⟨values, rfl⟩ := variant
  obtain ⟨written, hw, bound⟩ := Outcome.bind_ok.mp bound
  obtain ⟨key, hk, bound⟩ := Outcome.bind_ok.mp bound
  obtain ⟨compared, hc, bound⟩ := Outcome.bind_ok.mp bound
  rw [updateConditions_eq, List.mapM_map] at hc
  have observed : Mapper.parameters i.observed (i.comparedPositions options) = .ok compared := hc
  exact ⟨written, key, compared, (Outcome.pure_ok.mp bound).symm,
    binds_of_parameters (i := i.withValues values) inside hw,
    binds_of_parameters (i := i.withValues values) sound.key_lt hk,
    binds_of_parameters (i := i.observed) (fun p hp => lt_of_mem_comparedPositions hp) observed⟩

end Instance

/-! ## Columns -/

/-- different fields of a sound model have different columns -/
theorem Model.nodup_columns {m : Model} (sound : m.Sound) {fields : List Nat} (ascending : fields.Pairwise (· < ·))
    (inside : ∀ p ∈ fields, p < m.fields.length) : (fields.map m.column).Nodup := by
  refine List.Nodup.map_on (fun p hp q hq same => ?_) (ascending.imp Nat.ne_of_lt)
  have there := idxOf_column sound (inside p hp)
  rw [same, idxOf_column sound (inside q hq)] at there
  exact (Option.some.inj there).symm

namespace Instance

variable {i filled : Instance} {options : SaveOptions}

/-- whether a statement with its parameters writes the dirty fields of an instance -/
structure WritesDirty (i filled : Instance) (options : SaveOptions) (fields : List Nat) (text : String)
    (parameters : List Value) : Prop where
  /-- each field stands once, in the order of the model -/
  ascending : fields.Pairwise (· < ·)
  columns : (fields.map i.model.column).Nodup
  /-- just the dirty fields are written -/
  written : ∀ p, p ∈ fields ↔ i.IsDirty filled options p
  statement : text = (i.model.updateRow fields (i.comparedPositions options)).text
  /-- the text sets their columns in the row that has the key and the version compared -/
  reads : i.model.isAbstract = false → RowStatement.ofText? text = some (.change i.model.table
    (i.model.numbered 1 fields) (i.model.numbered (fields.length + 1) (i.model.key ++ i.comparedPositions options)))
  /-- written and key are the values as the automatic step leaves them, the version is that of the snapshot -/
  binds : ∃ written key compared, parameters = written ++ key ++ compared ∧ List.Forall₂ filled.Binds fields written ∧
    List.Forall₂ filled.Binds i.model.key key ∧
    List.Forall₂ i.observed.Binds (i.comparedPositions options) compared

theorem AsksUpdate.writesDirty {e : Entity} (books : i.Consistent e) (sound : i.model.Sound)
    (stored : i.persisted = true) (dirty : i.changedPositions ≠ []) {active : Active} {now : Instant} {on : Database}
    {x : Dialogue.Exchange Call Call.Answer} (asks : i.AsksUpdate active now options on x) :
    ∃ filled fields text parameters, i.prepared now options = .ok filled ∧
      x.question = .execute on (on.pinned active) text parameters ∧
      i.WritesDirty filled options fields text parameters := by
  cases asks with
  | @mk filled positions parameters answer prepares located bound =>
    have written (p : Nat) : p ∈ withAutomatic i filled positions ↔ i.IsDirty filled options p :=
      mem_written_iff books stored prepares located
    have inside : ∀ p ∈ withAutomatic i filled positions, p < i.model.fields.length := fun p hp => lt_of_mem_withAutomatic hp
    have ascending := pairwise_withAutomatic i filled positions
    rw [fst_updateConditions]
    refine ⟨filled, _, _, parameters, prepares, rfl, ascending, Model.nodup_columns sound ascending inside, written, rfl,
      fun concrete => ?_, binds_update sound (isVariant_prepared prepares) inside bound⟩
    have some : withAutomatic i filled positions ≠ [] := by
      obtain ⟨p, hp⟩ := List.exists_mem_of_ne_nil _ dirty
      refine List.ne_nil_of_mem (mem_withAutomatic.mpr ⟨?_, .inl ((mem_positionsToWrite located).mpr (.inl hp))⟩)
      have there := lt_of_mem_changedPositions hp
      rwa [books.length, ← books.toIsOf.model] at there
    have key : i.model.key ++ i.comparedPositions options ≠ [] := by
      simp [sound.key_ne concrete]
    rw [Model.updateRow_eq]
    exact RowStatement.ofText_update _ (Model.numbered_ne_nil 1 some) (Model.numbered_ne_nil _ key)

end Instance

/-- **A save writes just the dirty columns.**  Whatever a program does to its instances, of any models that can be built,
with any registry and any answers of the databases: when it saves a stored instance that has changed, forced or not and
with any fields asked for, one statement at most is sent, none only if the save fails and leaves the instance as it was.
The statement goes to the database of the instance's mapper and writes, each once and in the order of the model, the
fields that differ from the snapshot, those asked for and, unless the save is forced, those that the automatic step has
changed; it compares the key and, unless the save is forced, the version that the snapshot has. -/
theorem Held.writes_dirty {models : Nat → Model} (built : ∀ number, ∃ d : Draft, d.build = .ok (models number))
    {r r' : Registry} {held : List Instance} (h : Held models r held) {i : Instance} (hi : i ∈ held)
    (stored : i.persisted = true) (dirty : i.changedPositions ≠ []) {options : SaveOptions}
    {active : Active} {now : Instant} {t : List (Dialogue.Exchange Call Call.Answer)} {result : Outcome Unit × Instance}
    (said : (i.saveWith active now options r).Says t (result, r')) :
    t.length ≤ 1 ∧ (t = [] → ∃ err, result = (.error err, i)) ∧
      ∀ x ∈ t, ∃ m r₁ filled fields text parameters, r.mapper i.entity i.databaseName = .ok (m, r₁) ∧
        i.prepared now options = .ok filled ∧
        x.question = .execute m.database (m.database.pinned active) text parameters ∧
        i.WritesDirty filled options fields text parameters := by
  obtain ⟨typed, arises⟩ := h.tended.arises
  have numbered := (arises i hi).numbered
  obtain ⟨e, _, books⟩ := (arises i hi).sound
  rcases Instance.says_saveWith typed numbered stored said with ⟨rfl, failed⟩ | ⟨x, m, r₁, rfl, _, found, asks⟩
  · exact ⟨Nat.zero_le 1, fun _ => failed dirty, fun x hx => absurd hx List.not_mem_nil⟩
  · refine ⟨Nat.le_refl 1, nofun, fun y hy => ?_⟩
    obtain rfl := List.mem_singleton.mp hy
    obtain ⟨filled, fields, text, parameters, prepares, question, writes⟩ :=
      asks.writesDirty books (numbered.sound built) stored dirty
    exact ⟨m, r₁, filled, fields, text, parameters, found, prepares, question, writes⟩

/-! ## Counters -/

/-- a database with one row -/
def withRow (row : Row) : Unit → (call : Call) → call.Answer × Unit
  | _, .execute .. | _, .executeMany .. => (.ok 1, ())
  | _, .query .. => (.ok [row], ())
  | _, .begin on => (.ok ⟨on, 0⟩, ())
  | _, .script .. | _, .close _ | _, .commit _ | _, .rollback _ => (.ok (), ())
  | _, .release _ | _, .discard _ => ((), ())

/-- what a program holds and its registry after it has read from a database with one row -/
def afterReading (models : Nat → Model) (row : Row) (how : Retrieval) : List Instance × Registry :=
  (Dialogue.run (withRow row) () ((Handling.retrieve how).run models [] (.ofDatabases [⟨defaultDatabase, 0⟩]))).1

/-- a program that reads an instance and sets a field -/
theorem held_assigned (models : Nat → Model) (row : Row) (how : Retrieval) (i : Instance)
    (numbered : how.entity.IsNumbered models) (loads : (afterReading models row how).1 = [i]) (name : String) (v : Value) :
    Held models (afterReading models row how).2 [(i.assigned name v).2, i] := by
  have start : Held models _ [] := .start [⟨defaultDatabase, 0⟩]
  have nothing : ∀ i ∈ (Handling.retrieve how).operands, i ∈ ([] : List Instance) := nofun
  have loaded : Held models (afterReading models row how).2 ([i] ++ []) :=
    loads ▸ start.handle nothing numbered (Dialogue.says_run (withRow row) () ((Handling.retrieve how).run models [] _))
  have stored : ∀ j ∈ (Handling.assign i name v).operands, j ∈ [i] ++ [] := fun _ hj => hj
  exact loaded.handle stored trivial
    (Dialogue.says_run (withRow row) () ((Handling.assign i name v).run models [] _))

/-- the saved counter with another hit -/
def hitCounter : Instance := (savedCounter.assigned "hits" (.int 6)).2

/-- the registry that the counter was saved with -/
def counterRegistry : Registry :=
  (Dialogue.run Instance.withoutRows () (saveCounter.run (fun _ => Instance.counters) []
    (.ofDatabases [⟨defaultDatabase, 0⟩]))).1.2

theorem built_counters : ∀ number : Nat, ∃ d : Draft, d.build = .ok ((fun _ => Instance.counters) number) :=
  fun _ => ⟨World.counterDraft, rfl⟩

/-- a program that makes a counter, saves it and counts it up -/
theorem tended_hitCounter (may : Instance → String → Prop) (allowed : may savedCounter "hits") :
    Tended (fun _ => Instance.counters) may counterRegistry [hitCounter, savedCounter, uncounted] := by
  have start : Tended (fun _ => Instance.counters) may _ [] := .start [⟨defaultDatabase, 0⟩]
  have nothing : ∀ i ∈ makeCounter.operands, i ∈ ([] : List Instance) := nofun
  have made : Tended (fun _ => Instance.counters) may _ ([uncounted] ++ []) :=
    start.handle nothing trivial trivial (Dialogue.says_run Instance.withoutRows () (makeCounter.run _ [] _))
  have new : ∀ i ∈ saveCounter.operands, i ∈ [uncounted] ++ [] := fun _ hi => hi
  have saved : Tended (fun _ => Instance.counters) may counterRegistry ([savedCounter] ++ ([uncounted] ++ [])) :=
    made.handle new trivial trivial (Dialogue.says_run Instance.withoutRows () (saveCounter.run _ [] _))
  have stored : ∀ i ∈ countHit.operands, i ∈ [savedCounter] ++ ([uncounted] ++ []) :=
    fun _ hi => List.mem_append_left _ hi
  exact saved.handle stored trivial (fun _ => allowed)
    (Dialogue.says_run Instance.withoutRows () (countHit.run _ [] _))

theorem Held.writes_dirty_hitCounter : ∃ held t result r',
    Held (fun _ => Instance.counters) counterRegistry held ∧ hitCounter ∈ held ∧
    (hitCounter.saveWith [] ⟨0, 0⟩ { fields := ["id"] } counterRegistry).Says t (result, r') ∧
    t.map (fun x => x.question) = [.execute ⟨defaultDatabase, 0⟩ none
      "UPDATE \"counter\" SET \"id\" = $1, \"hits\" = $2, \"rev\" = $3 WHERE \"id\" = $4 AND \"rev\" = $5"
      [.int 1, .int 6, .int 2, .int 1, .int 1]] ∧
    ∀ x ∈ t, ∃ filled fields text parameters, x.question = .execute ⟨defaultDatabase, 0⟩ none text parameters ∧
      hitCounter.WritesDirty filled { fields := ["id"] } fields text parameters := by
  have held := Held.of_tended (tended_hitCounter (fun _ _ => True) trivial)
  have said := Dialogue.says_run Instance.withoutRows ()
    (hitCounter.saveWith [] ⟨0, 0⟩ { fields := ["id"] } counterRegistry)
  have changed : hitCounter.changedPositions ≠ [] := by decide +kernel
  obtain ⟨_, _, writes⟩ := held.writes_dirty built_counters List.mem_cons_self rfl changed said
  refine ⟨_, _, _, _, held, List.mem_cons_self, said, rfl, fun x hx => ?_⟩
  obtain ⟨m, r₁, filled, fields, text, parameters, found, _, question, dirty⟩ := writes x hx
  have own : m.database = ⟨defaultDatabase, 0⟩ := by
    cases found
    rfl
  exact ⟨filled, fields, text, parameters, own ▸ question, dirty⟩

end Tabula
