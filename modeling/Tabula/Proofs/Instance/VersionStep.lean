import Tabula.Proofs.Instance.DirtyColumns
/-!
# Steps of the version

A save that is not forced counts up the version that the instance has and compares the one that was observed.  The two
are the same unless the version has been assigned since, so that the versions of a row go up by one in a program that
assigns no version: `Tended.version_steps`.
-/

namespace Tabula

/-- the version that a value stands for; a missing one counts as zero -/
def Value.version (v : Value) : Int64 := v.asInt.getD 0

namespace Model

variable {m : Model} {v : Nat}

theorem exists_version_field (h : m.versionPosition? = some v) : ∃ f, m.fields[v]? = some f ∧ f.kind = .version := by
  obtain ⟨f, hf, kind⟩ := mem_positionsWhere.mp (List.mem_of_head? h)
  exact ⟨f, hf, beq_iff_eq.mp kind⟩

end Model

/-! ## Versions are numbers or missing -/

/-- the values of a version are numbers or missing -/
theorem FieldKind.owns_version_iff {w : Value} :
    FieldKind.version.owns w = true ↔ w = .null ∨ w = .int w.version := by
  cases w <;> simp [owns, Value.version, Value.asInt]

/-- of two versions that are equal, each stands for the same -/
theorem Value.version_of_same {a b : Value} (same : a.same b = true) : a.version = b.version := by
  cases a <;> cases b <;> simp only [Value.same, Bool.false_eq_true] at same <;>
    first | rfl | exact congrArg (fun n => (Value.int n).version) (eq_of_beq same)

namespace Instance

variable {models : Nat → Model} {may : Instance → String → Prop} {i j filled : Instance} {now : Instant} {v : Nat}

/-- **The automatic step counts the version up by one.** -/
theorem version_filledIn (fills : i.filledIn now = .ok filled) (version : i.model.versionPosition? = some v)
    (inside : v < i.values.length) :
    (i.valueAt v).version < Int64.maxValue ∧ filled.valueAt v = .int ((i.valueAt v).version + 1) := by
  obtain ⟨f, hf, kind⟩ := Model.exists_version_field version
  obtain ⟨o, fill, value⟩ := valueAt_filledIn fills inside
  have next : i.fillAt now v = (f.nextVersion (.int (i.valueAt v).version)).map some := by
    rw [fillAt, hf]
    simp only [Field.automatic, kind]
    rfl
  rw [next, Field.nextVersion_int] at fill
  split at fill
  · next more =>
    obtain rfl := Except.ok.inj fill
    exact ⟨more, value⟩
  · cases fill

/-- there is a value for the version -/
theorem Consistent.version_lt {e : Entity} (books : i.Consistent e) (version : i.model.versionPosition? = some v) :
    v < i.values.length := by
  rw [books.length, ← books.toIsOf.model]
  exact Model.lt_of_mem_positionsWhere (List.mem_of_head? version)

theorem Arises.version_lt (h : i.Arises models may) (version : i.model.versionPosition? = some v) :
    v < i.values.length := by
  obtain ⟨e, _, books⟩ := h.sound
  exact books.version_lt version

/-- whether the version and that of the snapshot are numbers or missing -/
structure Counts (i : Instance) : Prop where
  current : ∀ v, i.model.versionPosition? = some v → FieldKind.version.owns (i.valueAt v) = true
  observed : ∀ v, i.model.versionPosition? = some v → FieldKind.version.owns (i.observed.valueAt v) = true

theorem counts_of_synchronized (taken : i.snapshot = some i.values)
    (current : ∀ v, i.model.versionPosition? = some v → FieldKind.version.owns (i.valueAt v) = true) : i.Counts :=
  ⟨current, fun v version => (valueAt_observed taken v).symm ▸ current v version⟩

theorem owns_of_accept {c : Value} {f : Field} (version : i.model.versionPosition? = some v)
    (hf : i.model.fields[v]? = some f) (accepted : f.accept c = .ok (j.valueAt v)) :
    FieldKind.version.owns (j.valueAt v) = true := by
  obtain ⟨g, hg, kind⟩ := Model.exists_version_field version
  obtain rfl := Option.some.inj (hf.symm.trans hg)
  exact kind ▸ Field.owns_of_accept accepted

theorem owns_of_int {n : Int64} (counted : j.valueAt v = .int n) : FieldKind.version.owns (j.valueAt v) = true := by
  rw [counted]
  rfl

/-- a row is read with a version that is a number or missing -/
theorem counts_ofRow {e : Entity} {database : String} {raw : List Value} (made : ofRow e database raw = .ok i) :
    i.Counts := by
  obtain ⟨same, values, accepted, rfl⟩ := ofRow_ok made
  refine counts_of_synchronized rfl fun v version => ?_
  obtain ⟨f, hf, _⟩ := Model.exists_version_field version
  have there : v < values.length := (consistent_ofRow made).version_lt version
  have value := List.getElem?_eq_getElem there
  obtain ⟨c, _, read⟩ := accepted_at same accepted hf value
  refine owns_of_accept version hf (c := c) ?_
  rw [read]
  exact congrArg Except.ok (valueAt_of_getElem value).symm

/-- **Whatever arises counts its version**, if it is stored. -/
theorem Arises.counts (h : i.Arises models may) (stored : i.persisted = true) : i.Counts := by
  induction h with
  | new number draw => cases stored
  | loaded _ made => exact counts_ofRow made
  | routedTo _ database ih =>
    have counts := ih stored
    exact ⟨counts.current, counts.observed⟩
  | @set i j name w h _ sets ih =>
    have before := ih ((persisted_set sets).symm.trans stored)
    obtain ⟨e, _, books⟩ := h.sound
    obtain ⟨p, f, u, _, hf, accepted, rfl, _⟩ := set_ok sets
    refine ⟨fun v version => ?_, fun v version => ?_⟩
    · rcases i.valueAt_withAt_cases p v u with kept | ⟨rfl, set⟩
      · exact kept ▸ before.current v version
      · exact owns_of_accept (j := i.withAt p u) version hf (set.symm ▸ accepted)
    · rw [observed_withAt (books.stored.trans stored)]
      exact before.observed v version
  | @inserted i filled j now cells positions h fills reads database ih =>
    refine counts_of_synchronized rfl fun v version => ?_
    obtain ⟨_, rfl⟩ := isVariant_inserted fills reads
    rcases valueAt_reads reads v with kept | ⟨f, c, hf, accepted⟩
    · have counted := (version_filledIn fills version (h.version_lt version)).2
      exact owns_of_int (kept.trans counted)
    · obtain ⟨_, rfl⟩ := isVariant_filledIn fills
      exact owns_of_accept (i := i) version hf accepted
  | @updated i filled now options h before prepares ih =>
    refine counts_of_synchronized rfl fun v version => ?_
    have variant := isVariant_prepared prepares
    unfold prepared at prepares
    split at prepares
    · obtain rfl := Except.ok.inj prepares
      exact (ih before).current v version
    · obtain ⟨_, rfl⟩ := variant
      have counted := (version_filledIn prepares version (h.version_lt version)).2
      exact owns_of_int counted
  | forgotten _ _ => cases stored
  | @refreshed i fresh database raw h made ih =>
    have counts := counts_ofRow made
    have own := (isOf_ofRow made).entity
    refine counts_of_synchronized rfl fun v version => ?_
    exact counts.current v (by rw [Instance.model, own]; exact version)

/-! ## Versions that nobody assigns -/

/-- whether a name is that of the version -/
def IsVersionName (i : Instance) (name : String) : Prop :=
  ∃ v, i.model.position name = .ok v ∧ i.model.versionPosition? = some v

/-- **A version that is not assigned is the one observed.** -/
theorem Arises.version_observed (h : i.Arises models may) (never : ∀ j name, may j name → ¬j.IsVersionName name)
    (stored : i.persisted = true) (version : i.model.versionPosition? = some v) :
    i.observed.valueAt v = i.valueAt v := by
  induction h with
  | new number draw => cases stored
  | loaded _ made =>
    obtain ⟨_, _, _, rfl⟩ := ofRow_ok made
    exact valueAt_observed rfl v
  | routedTo _ database ih => exact ih stored version
  | @set i j name w h allowed sets ih =>
    have before : i.persisted = true := (persisted_set sets).symm.trans stored
    obtain ⟨e, _, books⟩ := h.sound
    obtain ⟨p, f, u, located, hf, _, rfl, _⟩ := set_ok sets
    have other : p ≠ v := fun same => never i name (allowed before) ⟨v, same ▸ located, version⟩
    rw [observed_withAt (books.stored.trans before), valueAt_withAt_ne other]
    exact ih before version
  | inserted _ _ _ database _ => exact valueAt_observed rfl v
  | updated _ _ _ _ => exact valueAt_observed rfl v
  | forgotten _ _ => cases stored
  | refreshed _ _ _ => exact valueAt_observed rfl v

/-- a version that is the one observed does not count as changed -/
theorem Counts.not_mem_changedPositions (h : i.Counts) (version : i.model.versionPosition? = some v)
    {old : List Value} (taken : i.snapshot = some old) (same : i.observed.valueAt v = i.valueAt v) :
    v ∉ i.changedPositions := by
  intro changed
  have differs := ((mem_changedPositions taken).mp changed).2
  rw [observed_of_snapshot taken] at same
  have equal : old.getD v .null = i.valueAt v := same
  rw [equal, Value.same_self_eq] at differs
  rcases FieldKind.owns_version_iff.mp (h.current v version) with missing | counted
  · rw [missing] at differs
    cases differs
  · rw [counted] at differs
    cases differs

/-- a version that does not count as changed stands for the one observed -/
theorem version_of_not_changed {old : List Value} (taken : i.snapshot = some old) (inside : v < i.values.length)
    (kept : v ∉ i.changedPositions) : (i.observed.valueAt v).version = (i.valueAt v).version := by
  rw [mem_changedPositions taken, not_and, Bool.not_eq_false] at kept
  rw [observed_of_snapshot taken]
  exact Value.version_of_same (kept inside)

/-! ## What an update writes and compares -/

variable {options : SaveOptions}

theorem comparedPositions_of_unforced (unforced : options.force = false) (version : i.model.versionPosition? = some v) :
    i.comparedPositions options = [v] := by
  simp [comparedPositions, unforced, version]

/-- the stored form of a version is the version -/
theorem eq_of_binds (version : i.model.versionPosition? = some v) (own : FieldKind.version.owns (i.valueAt v) = true)
    {c : Value} (binds : i.Binds v c) : c = i.valueAt v := by
  obtain ⟨f, hf, stored⟩ := binds
  obtain ⟨g, hg, kind⟩ := Model.exists_version_field version
  obtain rfl := Option.some.inj (hf.symm.trans hg)
  have cell : Field.cellOf (i.valueAt v) = some (i.valueAt v) := by
    rcases FieldKind.owns_version_iff.mp own with missing | counted
    · rw [missing]
      rfl
    · rw [counted]
      rfl
  have again := Field.toStorage_of_owns (kind.symm ▸ own) cell
  exact Except.ok.inj (stored.symm.trans again)

/-- what has been counted up differs from what was there -/
theorem not_same_next {w : Value} (more : w.version < Int64.maxValue) :
    (Value.int (w.version + 1)).same w = false := by
  rw [Bool.eq_false_iff]
  intro same
  have equal : w.version + 1 = w.version := Value.version_of_same same
  have next := toInt_next more
  rw [equal] at next
  omega

/-- what an update that is not forced writes into the version and compares with it -/
theorem WritesDirty.version {e : Entity} (books : i.Consistent e) (counts : i.Counts)
    (version : i.model.versionPosition? = some v) (unforced : options.force = false)
    (prepares : i.prepared now options = .ok filled) {fields : List Nat} {text : String} {parameters : List Value}
    (writes : i.WritesDirty filled options fields text parameters) :
    ∃ (k : Nat) (n : Int64), fields[k]? = some v ∧ parameters[k]? = some (.int n) ∧
      n.toInt = (i.valueAt v).version.toInt + 1 ∧ parameters.getLast? = some (i.observed.valueAt v) := by
  have fills : i.filledIn now = .ok filled := by simpa [prepared, unforced] using prepares
  obtain ⟨more, counted⟩ := version_filledIn fills version (books.version_lt version)
  have automatic : v ∈ i.model.automaticPositions := by
    obtain ⟨f, hf, kind⟩ := Model.exists_version_field version
    exact Model.mem_positionsWhere.mpr ⟨f, hf, by rw [kind]; rfl⟩
  have dirty : i.IsDirty filled options v := .automatic unforced automatic (counted ▸ not_same_next more)
  obtain ⟨k, place⟩ := List.mem_iff_getElem?.mp ((writes.written v).mpr dirty)
  obtain ⟨written, key, compared, rfl, sets, _, compares⟩ := writes.binds
  refine ⟨k, (i.valueAt v).version + 1, place, ?_, toInt_next more, ?_⟩
  · obtain ⟨lk, _⟩ := List.getElem?_eq_some_iff.mp place
    have lw : k < written.length := sets.length_eq ▸ lk
    have bound := (List.forall₂_iff_get.mp sets).2 k lk lw
    obtain ⟨_, at_k⟩ := List.getElem?_eq_some_iff.mp place
    simp only [List.get_eq_getElem, at_k] at bound
    obtain ⟨now, rfl⟩ := isVariant_filledIn fills
    have written_k := eq_of_binds (i := i.withValues now) version (owns_of_int counted) bound
    rw [List.append_assoc, List.getElem?_append_left lw, List.getElem?_eq_getElem lw, written_k, counted]
  · rw [comparedPositions_of_unforced unforced version] at compares
    cases compares with
    | cons bound rest =>
      cases rest
      have compared_v := eq_of_binds (i := i.observed) version (counts.observed v version) bound
      rw [List.getLast?_append, List.getLast?_singleton, Option.some_or, compared_v]

end Instance

/-- **The version goes up by one where nobody assigns it.**  Whatever a program does to its instances, of any models that
can be built, with any registry and any answers of the databases: an update that a save sends, unless it is forced,
writes into the version one more than the instance has and compares the version that was observed.  This is one more than
was observed as long as the version does not count as changed, and so always in a program that assigns no version of a
stored instance. -/
theorem Tended.version_steps {models : Nat → Model} (built : ∀ number, ∃ d : Draft, d.build = .ok (models number))
    {may : Instance → String → Prop} {r r' : Registry} {held : List Instance} (h : Tended models may r held)
    {i : Instance} (hi : i ∈ held) (stored : i.persisted = true) {v : Nat}
    (version : i.model.versionPosition? = some v) {options : SaveOptions} (unforced : options.force = false)
    {active : Active} {now : Instant} {t : List (Dialogue.Exchange Call Call.Answer)}
    {result : Outcome Unit × Instance} (said : (i.saveWith active now options r).Says t (result, r')) :
    ((∀ j name, may j name → ¬j.IsVersionName name) → v ∉ i.changedPositions) ∧
    ∀ x ∈ t, ∃ on text filled, ∃ (parameters : List Value) (fields : List Nat) (k : Nat) (n : Int64),
      x.question = .execute on (on.pinned active) text parameters ∧
      i.WritesDirty filled options fields text parameters ∧ fields[k]? = some v ∧
      parameters[k]? = some (.int n) ∧ n.toInt = (i.valueAt v).version.toInt + 1 ∧
      parameters.getLast? = some (i.observed.valueAt v) ∧
      (v ∉ i.changedPositions → n.toInt = (i.observed.valueAt v).version.toInt + 1) := by
  obtain ⟨typed, arises⟩ := h.arises
  have numbered := (arises i hi).numbered
  have counts := (arises i hi).counts stored
  obtain ⟨e, _, books⟩ := (arises i hi).sound
  obtain ⟨old, taken⟩ := Option.isSome_iff_exists.mp (books.stored.trans stored)
  refine ⟨fun never => counts.not_mem_changedPositions version taken
    ((arises i hi).version_observed never stored version), fun x hx => ?_⟩
  rcases Instance.says_saveWith typed numbered stored said with ⟨rfl, _⟩ | ⟨y, m, r₁, rfl, dirty, _, asks⟩
  · exact absurd hx List.not_mem_nil
  · obtain rfl := List.mem_singleton.mp hx
    obtain ⟨filled, fields, text, parameters, prepares, question, writes⟩ :=
      asks.writesDirty books (numbered.sound built) stored dirty
    obtain ⟨k, n, place, set, next, compared⟩ := writes.version books counts version unforced prepares
    refine ⟨m.database, text, filled, parameters, fields, k, n, question, writes, place, set, next, compared,
      fun kept => ?_⟩
    rw [next, Instance.version_of_not_changed taken (books.version_lt version) kept]

theorem not_isVersionName_hits {j : Instance} (counter : j.model = Instance.counters) :
    ¬j.IsVersionName "hits" := by
  rintro ⟨v, located, version⟩
  rw [counter] at located version
  cases located
  cases version

theorem Tended.version_steps_hitCounter : ∃ held t result r',
    Tended (fun _ => Instance.counters) (fun j name => ¬j.IsVersionName name) counterRegistry held ∧
    hitCounter ∈ held ∧ (hitCounter.saveWith [] ⟨0, 0⟩ {} counterRegistry).Says t (result, r') ∧
    t.map (fun x => x.question) = [.execute ⟨defaultDatabase, 0⟩ none
      "UPDATE \"counter\" SET \"hits\" = $1, \"rev\" = $2 WHERE \"id\" = $3 AND \"rev\" = $4"
      [.int 6, .int 2, .int 1, .int 1]] ∧
    ∀ x ∈ t, ∃ on text, ∃ (parameters : List Value) (n : Int64), x.question = .execute on none text parameters ∧
      .int n ∈ parameters ∧ n.toInt = (hitCounter.observed.valueAt 2).version.toInt + 1 ∧
      parameters.getLast? = some (hitCounter.observed.valueAt 2) := by
  have tended := tended_hitCounter (fun j name => ¬j.IsVersionName name) (not_isVersionName_hits rfl)
  have said := Dialogue.says_run Instance.withoutRows () (hitCounter.saveWith [] ⟨0, 0⟩ {} counterRegistry)
  obtain ⟨kept, steps⟩ := tended.version_steps built_counters List.mem_cons_self rfl (v := 2) rfl rfl said
  refine ⟨_, _, _, _, tended, List.mem_cons_self, said, rfl, fun x hx => ?_⟩
  obtain ⟨on, text, filled, parameters, fields, k, n, question, _, _, set, _, compared, next⟩ := steps x hx
  exact ⟨on, text, parameters, n, question, List.mem_of_getElem? set, next (kept fun _ _ never => never), compared⟩

/-- the counter as it is loaded -/
def loadedCounter : Instance :=
  ({ entity := ⟨0, Instance.counters⟩, values := [.int 1, .int 4, .int 2], persisted := true,
     database := some defaultDatabase } : Instance).synchronized

/-- **A version that has been assigned may stand still**: the counter was loaded with version 2, and a save after version
1 has been assigned compares 2 and writes 2, so that whoever else has loaded it can save what was read before. -/
theorem Held.version_stands_after_assignment : ∃ held r t result r',
    Held (fun _ => Instance.counters) r held ∧ (loadedCounter.assigned "rev" (.int 1)).2 ∈ held ∧
    loadedCounter ∈ held ∧ loadedCounter.values = [.int 1, .int 4, .int 2] ∧
    ((loadedCounter.assigned "rev" (.int 1)).2.saveWith [] ⟨0, 0⟩ {} r).Says t (result, r') ∧
    t.map (fun x => x.question) = [.execute ⟨defaultDatabase, 0⟩ none
      "UPDATE \"counter\" SET \"rev\" = $1 WHERE \"id\" = $2 AND \"rev\" = $3" [.int 2, .int 1, .int 2]] := by
  have assigned := held_assigned (fun _ => Instance.counters) ⟨["id", "hits", "rev"], [.int 1, .int 4, .int 2]⟩
    (.load { entity := ⟨0, Instance.counters⟩ } (.int 1)) loadedCounter rfl rfl "rev" (.int 1)
  exact ⟨_, _, _, _, _, assigned, List.mem_cons_self, List.mem_cons_of_mem _ List.mem_cons_self, rfl,
    Dialogue.says_run Instance.withoutRows () _, rfl⟩

end Tabula
