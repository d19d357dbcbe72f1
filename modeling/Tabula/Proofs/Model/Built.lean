import Tabula.Model.Draft
import Tabula.Proofs.Outcome
import Mathlib.Data.List.Nodup
/-!
# What a built model guarantees

`Draft.checked_of_build` takes the building of a model apart; `Model.Sound` collects what follows from its checks for
the model alone, and `Draft.sound_of_build` says that it does.
-/

namespace Tabula

namespace Model

/-- what a definition is checked for -/
structure Sound (m : Model) : Prop where
  /-- no column is used twice -/
  columns : (m.fields.map Field.column).Nodup
  key_lt : ∀ p ∈ m.key, p < m.fields.length
  key_ne : m.isAbstract = false → m.key ≠ []
  key_required : ∀ f ∈ m.keyFields, f.nullable = false
  /-- there is at most one version counter -/
  version_le : (positionsWhere m.fields (·.kind == .version)).length ≤ 1

theorem mem_positionsWhere {fields : List Field} {q : Field → Bool} {p : Nat} :
    p ∈ positionsWhere fields q ↔ ∃ f, fields[p]? = some f ∧ q f = true := by
  simp only [positionsWhere, List.mem_map, List.mem_filter, Prod.exists, List.mem_zipIdx_iff_getElem?]
  constructor
  · rintro ⟨f, _, ⟨hf, hq⟩, rfl⟩
    exact ⟨f, hf, hq⟩
  · rintro ⟨f, hf, hq⟩
    exact ⟨f, p, ⟨hf, hq⟩, rfl⟩

theorem lt_of_mem_positionsWhere {fields : List Field} {q : Field → Bool} {p : Nat}
    (h : p ∈ positionsWhere fields q) : p < fields.length := by
  obtain ⟨f, hf, _⟩ := mem_positionsWhere.mp h
  exact (List.getElem?_eq_some_iff.mp hf).1

theorem mem_of_field {m : Model} {name : String} {f : Field} (h : m.field? name = some f) : f ∈ m.fields := by
  obtain ⟨p, _, hp⟩ := Option.bind_eq_some_iff.mp h
  exact List.mem_of_getElem? hp

theorem name_of_field {m : Model} {name : String} {f : Field} (h : m.field? name = some f) : f.name = name := by
  obtain ⟨p, last, hp⟩ := Option.bind_eq_some_iff.mp h
  obtain ⟨g, hg, named⟩ := mem_positionsWhere.mp (List.mem_of_getLast? last)
  obtain rfl : g = f := Option.some.inj (hg.symm.trans hp)
  exact beq_iff_eq.mp named

theorem lt_of_position {m : Model} {name : String} {p : Nat} (h : m.position name = .ok p) : p < m.fields.length := by
  unfold position at h
  split at h
  · next found =>
    injection h with h
    exact h ▸ lt_of_mem_positionsWhere (List.mem_of_getLast? found)
  · simp [failure] at h

theorem snd_zipIdx (fields : List Field) : fields.zipIdx.map Prod.snd = List.range fields.length := by
  simp [List.range_eq_range']

/-- positions are found in ascending order -/
theorem pairwise_positionsWhere (fields : List Field) (q : Field → Bool) :
    (positionsWhere fields q).Pairwise (· < ·) := by
  have part : (positionsWhere fields q).Sublist (fields.zipIdx.map Prod.snd) := List.filter_sublist.map Prod.snd
  rw [snd_zipIdx] at part
  exact List.pairwise_lt_range.sublist part

theorem nodup_positionsWhere (fields : List Field) (q : Field → Bool) : (positionsWhere fields q).Nodup :=
  (pairwise_positionsWhere fields q).imp Nat.ne_of_lt

/-- at the positions that are found are the fields that satisfy the condition -/
theorem map_positionsWhere (fields : List Field) (q : Field → Bool) :
    (positionsWhere fields q).map (fields[·]?) = (fields.filter q).map some := by
  have there : ∀ fi ∈ fields.zipIdx.filter fun fi => q fi.1, fields[fi.2]? = some fi.1 := fun fi hf =>
    List.mem_zipIdx_iff_getElem?.mp (List.mem_filter.mp hf).1
  have fst : (fields.zipIdx.filter fun fi => q fi.1).map Prod.fst = fields.filter q := by
    have kept := List.filter_map (f := Prod.fst) (p := q) (l := fields.zipIdx)
    rw [List.zipIdx_map_fst] at kept
    exact kept.symm
  rw [positionsWhere, List.map_map, ← fst, List.map_map]
  exact List.map_congr_left there

theorem positionsWhere_eq_nil {fields : List Field} {q : Field → Bool} :
    positionsWhere fields q = [] ↔ ∀ f ∈ fields, q f = false := by
  have found := congrArg List.length (map_positionsWhere fields q)
  rw [List.length_map, List.length_map] at found
  rw [← List.length_eq_zero_iff, found, List.length_eq_zero_iff, List.filter_eq_nil_iff]
  simp

theorem mem_keyFields {m : Model} {p : Nat} {f : Field} (h : p ∈ m.key) (hf : m.fields[p]? = some f) :
    f ∈ m.keyFields :=
  List.mem_filterMap.mpr ⟨p, h, hf⟩

end Model

namespace Draft

open Model (Sound mem_positionsWhere lt_of_mem_positionsWhere)

variable {d : Draft} {m : Model} {key : List Nat}

/-- what is checked beside the key -/
structure SoundBesidesKey (d : Draft) : Prop where
  fields : d.checkFields = .ok ()
  version : d.checkVersion = .ok ()
  unique : d.checkGroups "unique_together" d.uniqueTogether = .ok ()
  indexes : d.checkGroups "indexes" d.indexes = .ok ()

/-- what building has checked, and what the model takes over from its draft -/
structure Checked (d : Draft) (m : Model) : Prop where
  besides : d.SoundBesidesKey
  positions : d.keyPositions = .ok m.key
  key : d.checkKey m.key = .ok ()
  fields : m.fields = d.merged
  isAbstract : m.isAbstract = d.resultIsAbstract
  unique : m.uniqueTogether = d.uniqueTogether
  indexes : m.indexes = d.indexes

theorem checked_of_build (h : d.build = .ok m) : Checked d m := by
  obtain ⟨_, fields, h⟩ := Outcome.bind_ok.mp h
  obtain ⟨key, positions, h⟩ := Outcome.bind_ok.mp h
  obtain ⟨_, checked, h⟩ := Outcome.bind_ok.mp h
  obtain ⟨_, version, h⟩ := Outcome.bind_ok.mp h
  obtain ⟨_, unique, h⟩ := Outcome.bind_ok.mp h
  obtain ⟨_, indexes, h⟩ := Outcome.bind_ok.mp h
  obtain rfl := Outcome.pure_ok.mp h
  exact ⟨⟨fields, version, unique, indexes⟩, positions, checked, rfl, rfl, rfl, rfl⟩

theorem builds_iff : (∃ m, d.build = .ok m) ↔
    d.SoundBesidesKey ∧ ∃ key, d.keyPositions = .ok key ∧ d.checkKey key = .ok () := by
  constructor
  · rintro ⟨m, h⟩
    have checked := checked_of_build h
    exact ⟨checked.besides, m.key, checked.positions, checked.key⟩
  · rintro ⟨⟨fields, version, unique, indexes⟩, key, positions, checked⟩
    rw [build, fields, Outcome.ok_bind, positions, Outcome.ok_bind, checked, Outcome.ok_bind, version, Outcome.ok_bind,
      unique, Outcome.ok_bind, indexes, Outcome.ok_bind]
    exact ⟨_, rfl⟩

theorem nodup_of_firstRepeated {seen l : List String} (h : firstRepeated? seen l = none) :
    l.Nodup ∧ ∀ s ∈ l, s ∉ seen := by
  induction l generalizing seen with
  | nil => simp
  | cons s rest ih =>
    unfold firstRepeated? at h
    split at h
    · simp at h
    · next hs =>
      obtain ⟨nodup, fresh⟩ := ih h
      have notin : s ∉ rest := fun hm => fresh s hm (List.mem_cons_self ..)
      refine ⟨List.nodup_cons.mpr ⟨notin, nodup⟩, List.forall_mem_cons.mpr ⟨by simpa using hs, ?_⟩⟩
      exact fun t ht hm => fresh t ht (List.mem_cons_of_mem _ hm)

theorem columns_of_checkFields (h : d.checkFields = .ok ()) : (d.merged.map Field.column).Nodup := by
  cases repeated : firstRepeated? [] (d.merged.map Field.column) with
  | none => exact (nodup_of_firstRepeated repeated).1
  | some column =>
    unfold checkFields at h
    simp only [repeated] at h
    split at h
    · obtain ⟨_, hn, _⟩ := Outcome.bind_ok.mp h
      simp at hn
    · obtain ⟨_, _, h⟩ := Outcome.bind_ok.mp h
      obtain ⟨_, _, h⟩ := Outcome.bind_ok.mp h
      simp at h

theorem lookup_lt {name : String} {p : Nat} (h : d.lookup name = .ok p) : p < d.merged.length := by
  unfold lookup at h
  split at h
  · next hl =>
    injection h with h
    exact h ▸ lt_of_mem_positionsWhere (List.mem_of_getLast? hl)
  · simp at h

theorem lt_of_keyPositions (h : d.keyPositions = .ok key) : ∀ p ∈ key, p < d.merged.length := by
  obtain ⟨declared, _, h⟩ := Outcome.bind_ok.mp h
  split at h
  · split at h
    · simp at h
    · injection h with h
      exact fun p hp => lt_of_mem_positionsWhere (h ▸ hp)
  · split at h
    · simp at h
    · obtain ⟨positions, found, h⟩ := Outcome.bind_ok.mp h
      split at h
      · injection h with h
        intro p hp
        obtain ⟨name, _, hn⟩ := Outcome.exists_of_mem_mapM found (h ▸ hp)
        exact lookup_lt hn
      · simp at h

theorem key_of_checkKey (h : d.checkKey key = .ok ()) :
    (d.resultIsAbstract = false → key ≠ []) ∧ ∀ f ∈ key.filterMap (d.merged[·]?), f.nullable = false := by
  unfold checkKey at h
  split at h
  · simp at h
  · next hk =>
    split at h
    · simp at h
    · next hf =>
      refine ⟨fun concrete empty => hk (by simp [concrete, empty]), fun f hm => ?_⟩
      simpa using List.find?_eq_none.mp hf f hm

theorem version_of_checkVersion (h : d.checkVersion = .ok ()) :
    (Model.positionsWhere d.merged (·.kind == .version)).length ≤ 1 := by
  unfold checkVersion at h
  split at h
  · simp at h
  · next hv => exact Nat.le_of_not_lt hv

/-- **A built model is sound.** -/
theorem sound_of_build (h : d.build = .ok m) : m.Sound := by
  have checked := checked_of_build h
  obtain ⟨nonempty, required⟩ := key_of_checkKey checked.key
  rw [← checked.isAbstract] at nonempty
  rw [← checked.fields] at required
  exact {
    columns := checked.fields ▸ columns_of_checkFields checked.besides.fields
    key_lt := checked.fields ▸ lt_of_keyPositions checked.positions
    key_ne := nonempty
    key_required := required
    version_le := checked.fields ▸ version_of_checkVersion checked.besides.version }

end Draft

namespace Model

variable {m : Model} {p : Nat}

/-- the version counter of a sound model is at one position only -/
theorem versionPosition_iff (h : m.Sound) :
    m.versionPosition? = some p ↔ ∃ f, m.fields[p]? = some f ∧ f.kind = .version := by
  have mem : p ∈ positionsWhere m.fields (·.kind == .version) ↔ _ := mem_positionsWhere
  have single := h.version_le
  simp only [beq_iff_eq] at mem
  rw [← mem, versionPosition?]
  match positionsWhere m.fields (·.kind == .version), single with
  | [], _ => simp
  | [q], _ => simp [eq_comm]

end Model

end Tabula
