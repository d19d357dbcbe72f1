import Tabula.Proofs.Instance.Arising
import Tabula.Proofs.Instance.OptimisticLock
import Tabula.Proofs.Model.Built
import Tabula.Proofs.Value.Equality
/-!
# The bookkeeping of instances

An instance keeps its values, whether its row is stored, and a snapshot of the values.  Whatever a program does with its
instances and whatever the databases answer, there is a value for each field, a snapshot just of what is stored, and in
the snapshot the key that the instance has.  `Consistent` is the invariant and has one lemma for each operation that
makes an instance arise.
-/

namespace Tabula

/-! ## The invariant -/

/-- whether an instance of an entity keeps its books: the key in the snapshot is that of the instance, or equals it -/
structure Instance.Consistent (i : Instance) (e : Entity) : Prop extends i.IsOf e where
  stored : i.snapshot.isSome = i.persisted
  snapshot : ∀ old, i.snapshot = some old → old.length = e.model.fields.length
  key : ∀ old, i.snapshot = some old → ∀ p ∈ e.model.key,
    old.getD p .null = i.valueAt p ∨ (old.getD p .null).same (i.valueAt p) = true

namespace Instance

variable {i j fresh : Instance} {e : Entity} {name database : String} {v : Value} {values : List Value}

theorem consistent_of_unstored (isOf : i.IsOf e) (unstored : i.persisted = false) (none : i.snapshot = none) :
    i.Consistent e := by
  refine ⟨isOf, ?_, ?_, ?_⟩ <;> rw [none]
  · exact unstored.symm
  · exact nofun
  · exact nofun

theorem consistent_of_synchronized (isOf : i.IsOf e) (stored : i.persisted = true)
    (taken : i.snapshot = some i.values) : i.Consistent e := by
  refine ⟨isOf, ?_, fun old h => ?_, fun old h p _ => .inl ?_⟩
  · rw [taken, stored]
    rfl
  · rw [taken] at h
    exact Option.some.inj h ▸ isOf.length
  · rw [taken] at h
    exact Option.some.inj h ▸ rfl

theorem IsOf.model (h : i.IsOf e) : i.model = e.model := congrArg Entity.model h.entity

theorem consistent_new (e : Entity) (draw : Nat → Nat) : (new e draw).Consistent e := by
  have isOf : (new e draw).IsOf e := ⟨rfl, List.length_mapIdx⟩
  exact consistent_of_unstored isOf rfl rfl

theorem Consistent.set (h : i.Consistent e) (set : i.set name v = .ok j) : j.Consistent e := by
  obtain ⟨p, f, w, _, hf, _, rfl, keeps⟩ := set_ok set
  have isOf : (i.withAt p w).IsOf e := ⟨h.entity, (i.length_withAt p w).trans h.length⟩
  refine ⟨isOf, h.stored, h.snapshot, fun old taken q hq => ?_⟩
  have old_key := h.key old taken q hq
  by_cases same : p = q
  · -- a field of the key: what is in the snapshot equals what was there, and that equals what is set
    subst same
    have field : p < i.model.fields.length := (List.getElem?_eq_some_iff.mp hf).1
    have inside : p < i.values.length := by
      rw [h.length, ← h.toIsOf.model]
      exact field
    have stored : i.persisted = true := by
      rw [← h.stored]
      exact Option.isSome_iff_exists.mpr ⟨old, taken⟩
    have kept : (i.valueAt p).same w = true := Value.same_symm _ _ (keeps stored (h.toIsOf.model ▸ hq))
    rw [valueAt_withAt_self inside]
    rcases old_key with same | same
    · exact .inr (same ▸ kept)
    · exact .inr (Value.same_trans _ _ _ same kept)
  · rw [valueAt_withAt_ne same]
    exact old_key

theorem Consistent.routedTo (h : i.Consistent e) (database : String) : (i.routedTo database).Consistent e :=
  ⟨⟨h.entity, h.length⟩, h.stored, h.snapshot, h.key⟩

theorem Consistent.storedIn (h : i.Consistent e) (length : values.length = i.values.length) (database : String) :
    ((i.withValues values).storedIn database).Consistent e :=
  consistent_of_synchronized ⟨h.entity, length.trans h.length⟩ rfl rfl

theorem Consistent.written (h : i.Consistent e) (written : i.Written j) : j.Consistent e := by
  cases written with
  | unchanged clean => exact h
  | inserted values length new => exact h.storedIn length _
  | updated values length stored => exact consistent_of_synchronized ⟨h.entity, length.trans h.length⟩ stored rfl

theorem Consistent.forgotten (h : i.Consistent e) :
    ({ i with persisted := false, snapshot := none } : Instance).Consistent e :=
  consistent_of_unstored ⟨h.entity, h.length⟩ rfl rfl

theorem Consistent.refreshedFrom (h : i.Consistent e) (row : fresh.IsOf e) : (i.refreshedFrom fresh).Consistent e :=
  consistent_of_synchronized ⟨h.entity, row.length⟩ rfl rfl

theorem consistent_ofRow {raw : List Value} (made : ofRow e database raw = .ok i) : i.Consistent e := by
  have isOf := isOf_ofRow made
  obtain ⟨_, values, _, rfl⟩ := ofRow_ok made
  exact consistent_of_synchronized isOf rfl rfl

/-! ## Positions -/

/-- the positions that the changes, the assignments and the saves of an instance go to -/
inductive Indexes (i : Instance) : Nat → Prop where
  | changed {p : Nat} (h : p ∈ i.changedPositions) : Indexes i p
  | named {name : String} {p : Nat} (h : i.model.position name = .ok p) : Indexes i p
  | key {p : Nat} (h : p ∈ i.model.key) : Indexes i p
  | automatic {p : Nat} (h : p ∈ i.model.automaticPositions) : Indexes i p
  | version {p : Nat} (h : i.model.versionPosition? = some p) : Indexes i p
  | inserted {p : Nat} (h : p ∈ i.model.insertPositions) : Indexes i p
  | returned {p : Nat} (h : p ∈ i.model.returningPositions) : Indexes i p
  | asked {names : List String} {ps : List Nat} {p : Nat} (h : i.positionsToWrite names = .ok ps) (hp : p ∈ ps) :
    Indexes i p
  | updated {filled : Instance} {ps : List Nat} {p : Nat} (h : p ∈ withAutomatic i filled ps) : Indexes i p

theorem lt_of_mem_changedPositions {p : Nat} (h : p ∈ i.changedPositions) : p < i.values.length := by
  unfold changedPositions at h
  split at h
  · exact List.mem_range.mp h
  · exact List.mem_range.mp (List.mem_of_mem_filter h)

/-- what is asked for by name is added to what changed, if it is not there yet -/
theorem mem_positionsToWrite {names : List String} {positions : List Nat} {p : Nat}
    (h : i.positionsToWrite names = .ok positions) :
    p ∈ positions ↔ p ∈ i.changedPositions ∨ ∃ name ∈ names, i.model.position name = .ok p := by
  unfold positionsToWrite at h
  -- the induction is on the names, so it is for any positions to start with
  generalize i.changedPositions = start at h ⊢
  induction names generalizing start with
  | nil =>
    obtain rfl := Outcome.pure_ok.mp h
    simp
  | cons name rest ih =>
    rw [List.foldlM_cons] at h
    obtain ⟨next, first, h⟩ := Outcome.bind_ok.mp h
    obtain ⟨q, found, first⟩ := Outcome.bind_ok.mp first
    obtain rfl := Outcome.pure_ok.mp first
    have added : p ∈ (if start.contains q then start else start ++ [q]) ↔ p ∈ start ∨ p = q := by
      split
      · next there =>
        have there : q ∈ start := by simpa using there
        exact ⟨.inl, fun h => h.elim id fun same => same ▸ there⟩
      · simp
    have here : i.model.position name = .ok p ↔ p = q := by
      rw [found, Except.ok.injEq, eq_comm]
    rw [ih _ h, added, or_assoc]
    simp only [List.mem_cons, exists_eq_or_imp, here]

theorem lt_of_mem_positionsToWrite (isOf : i.IsOf e) {names : List String} {positions : List Nat}
    (h : i.positionsToWrite names = .ok positions) : ∀ p ∈ positions, p < e.model.fields.length := by
  intro p hp
  rcases (mem_positionsToWrite h).mp hp with changed | ⟨name, _, named⟩
  · exact isOf.length ▸ lt_of_mem_changedPositions changed
  · exact isOf.model ▸ Model.lt_of_position named

/-- **There is a field at every position that is gone to.** -/
theorem Indexes.lt (isOf : i.IsOf e) (sound : e.model.Sound) {p : Nat} (h : i.Indexes p) :
    p < e.model.fields.length := by
  have model := isOf.model
  cases h with
  | changed h => exact isOf.length ▸ lt_of_mem_changedPositions h
  | named h => exact model ▸ Model.lt_of_position h
  | key h => exact sound.key_lt p (model ▸ h)
  | automatic h => exact model ▸ Model.lt_of_mem_positionsWhere h
  | version h => exact model ▸ Model.lt_of_mem_positionsWhere (List.mem_of_head? h)
  | inserted h => exact model ▸ Model.lt_of_mem_positionsWhere h
  | returned h => exact model ▸ Model.lt_of_mem_positionsWhere h
  | asked h hp => exact lt_of_mem_positionsToWrite isOf h p hp
  | updated h => exact model ▸ List.mem_range.mp (List.mem_of_mem_filter h)

/-! ## Keys -/

/-- **The key of a stored instance does not count as changed**, unless a number in it is none. -/
theorem Consistent.not_mem_changedPositions (h : i.Consistent e) (stored : i.persisted = true) {p : Nat}
    (hp : p ∈ e.model.key) (number : (i.valueAt p).hasNaN = false) : p ∉ i.changedPositions := by
  obtain ⟨old, taken⟩ := Option.isSome_iff_exists.mp (h.stored.trans stored)
  have same : (old.getD p .null).same (i.valueAt p) = true := by
    rcases h.key old taken p hp with equal | same
    · rw [equal, Value.same_self_eq, number]
      rfl
    · exact same
  unfold changedPositions
  rw [taken]
  intro changed
  have differs := (List.mem_filter.mp changed).2
  rw [same] at differs
  cases differs

end Instance

/-! ## What a program may hold -/

/-- whether an instance keeps its books as one of a numbered entity -/
def Handling.Sound (models : Nat → Model) (i : Instance) : Prop := ∃ e : Entity, e.IsNumbered models ∧ i.Consistent e

/-- **Whatever arises keeps its books.** -/
theorem Instance.Arises.sound {models : Nat → Model} {may : Instance → String → Prop} {i : Instance}
    (h : i.Arises models may) : Handling.Sound models i := by
  induction h with
  | new number draw => exact ⟨⟨number, models number⟩, rfl, consistent_new _ draw⟩
  | loaded numbered made => exact ⟨_, numbered, consistent_ofRow made⟩
  | routedTo _ database ih =>
    obtain ⟨e, numbered, books⟩ := ih
    exact ⟨e, numbered, books.routedTo database⟩
  | set _ _ sets ih =>
    obtain ⟨e, numbered, books⟩ := ih
    exact ⟨e, numbered, books.set sets⟩
  | inserted _ fills reads database ih =>
    obtain ⟨e, numbered, books⟩ := ih
    rw [(isVariant_inserted fills reads).eq_withValues]
    exact ⟨e, numbered, books.storedIn (length_inserted fills reads) database⟩
  | updated _ stored prepares ih =>
    obtain ⟨e, numbered, books⟩ := ih
    have written : Instance.Written _ _ := (Completed.updated stored prepares).written
    exact ⟨e, numbered, books.written written⟩
  | forgotten _ ih =>
    obtain ⟨e, numbered, books⟩ := ih
    exact ⟨e, numbered, books.forgotten⟩
  | refreshed _ made ih =>
    obtain ⟨e, numbered, books⟩ := ih
    have row : Instance.IsOf _ e := books.entity ▸ isOf_ofRow made
    exact ⟨e, numbered, books.refreshedFrom row⟩

/-- **Whatever is held keeps its books.** -/
theorem Held.sound {models : Nat → Model} {r : Registry} {held : List Instance} (h : Held models r held) :
    r.Typed models ∧ ∀ i ∈ held, Handling.Sound models i := by
  obtain ⟨typed, arises⟩ := h.tended.arises
  exact ⟨typed, fun i hi => (arises i hi).sound⟩

/-- the models of a program that can be built are sound -/
theorem Entity.IsNumbered.sound {models : Nat → Model} (built : ∀ number, ∃ d : Draft, d.build = .ok (models number))
    {e : Entity} (numbered : e.IsNumbered models) : e.model.Sound := by
  obtain ⟨d, build⟩ := built e.number
  have model : e.model = models e.number := congrArg Entity.model numbered
  exact model ▸ Draft.sound_of_build build

/-- makes a counter -/
def makeCounter : Handling := .ofPairs 0 (fun _ => 0) [("id", .int 1), ("hits", .int 5)]

/-- the counter as it is made -/
def uncounted : Instance := { entity := ⟨0, Instance.counters⟩, values := [.int 1, .int 5, .int 0] }

def saveCounter : Handling := .save uncounted ⟨0, 0⟩ {}

/-- the counter as it is saved -/
def savedCounter : Instance := (uncounted.withValues [.int 1, .int 5, .int 1]).storedIn defaultDatabase

def countHit : Handling := .assign savedCounter "hits" (.int 6)

end Tabula
