import Tabula.Proofs.Model.Built
/-!
# Well-formed definitions

Compilers, mappers and instances look fields up by the positions that a model keeps.  `Model.WellFormed` says
what makes these positions safe, and `Draft.build_settles` that building a draft gives a model of that kind or
a configuration error, whatever the draft has inherited and declared.
-/

namespace Tabula

namespace Model

/-- the field at a position is a version counter -/
def Counts (m : Model) (p : Nat) : Prop := ∃ f : Field, m.fields[p]? = some f ∧ f.kind = .version

/-- the field at a position is a moment that every save or the first one fills in -/
def Stamps (m : Model) (p : Nat) : Prop :=
  ∃ f : Field, m.fields[p]? = some f ∧
    ∃ onSave onCreate, f.kind = .instant onSave onCreate ∧ (onSave = true ∨ onCreate = true)

/-- what a model built from a draft can be relied on for -/
structure WellFormed (d : Draft) (m : Model) : Prop where
  /-- the columns are pairwise distinct -/
  columns : (m.fields.map Field.column).Nodup
  key_lt : ∀ p ∈ m.key, p < m.fields.length
  key_nodup : m.key.Nodup
  key_required : ∀ p ∈ m.key, ∀ f, m.fields[p]? = some f → f.nullable = false
  key_ne : m.isAbstract = false → m.key ≠ []
  /-- a key of several fields, or one declared by names here or by a parent, leaves no field flagged -/
  unflagged : m.isComposite ∨ d.key ≠ [] ∨ d.inheritedKey ≠ [] → ∀ f ∈ m.fields, f.isKey = false
  version_single : ∀ p q, m.Counts p → m.Counts q → p = q
  version_position : ∀ p, m.versionPosition? = some p ↔ m.Counts p
  automatic_ascending : m.automaticPositions.Pairwise (· < ·)
  /-- saves fill in the version counter and the moments marked for it, nothing else -/
  automatic_mem : ∀ p, p ∈ m.automaticPositions ↔ m.Counts p ∨ m.Stamps p
  /-- a group names fields, and at least one -/
  groups : ∀ group ∈ m.uniqueTogether ++ m.indexes, group ≠ [] ∧
    ∀ name ∈ group, ∃ f ∈ m.fields, f.name = name ∧ m.field? name = some f
  valid : ∀ f ∈ m.fields, f.validate = .ok ()

theorem isAutomatic_iff {kind : FieldKind} :
    kind.isAutomatic = true ↔
      kind = .version ∨ ∃ onSave onCreate, kind = .instant onSave onCreate ∧ (onSave = true ∨ onCreate = true) := by
  cases kind with
  | instant onSave onCreate => cases onSave <;> cases onCreate <;> simp [FieldKind.isAutomatic]
  | _ => simp [FieldKind.isAutomatic]

theorem mem_automaticPositions {m : Model} {p : Nat} : p ∈ m.automaticPositions ↔ m.Counts p ∨ m.Stamps p := by
  simp only [automaticPositions, mem_positionsWhere, isAutomatic_iff, Counts, Stamps, and_or_left, exists_or]

end Model

namespace Draft

open Model (WellFormed positionsWhere mem_positionsWhere positionsWhere_eq_nil)

variable {d : Draft} {m : Model} {key : List Nat} {e : Error}

/-! ## What passes the checks -/

theorem length_eraseDups_le {α : Type} [BEq α] (l : List α) : l.eraseDups.length ≤ l.length := by
  match l with
  | [] => simp
  | p :: rest =>
    rw [List.eraseDups_cons]
    have ih := length_eraseDups_le (rest.filter fun q => !q == p)
    have part := List.length_filter_le (fun q => !q == p) rest
    simp only [List.length_cons]
    omega
termination_by l.length
decreasing_by exact Nat.lt_succ_of_le (List.length_filter_le _ _)

theorem nodup_of_length_eraseDups {α : Type} [BEq α] [LawfulBEq α] {l : List α} (h : l.eraseDups.length = l.length) :
    l.Nodup := by
  induction l with
  | nil => exact List.nodup_nil
  | cons p rest ih =>
    rw [List.eraseDups_cons] at h
    have erased := length_eraseDups_le (rest.filter fun q => !q == p)
    have part := List.length_filter_le (fun q => !q == p) rest
    simp only [List.length_cons] at h
    have others : ∀ q ∈ rest, (!q == p) = true := List.length_filter_eq_length_iff.mp (by omega)
    rw [List.filter_eq_self.mpr others] at h
    have notin : p ∉ rest := fun mem => by simpa using others p mem
    exact List.nodup_cons.mpr ⟨notin, ih (by omega)⟩

theorem eraseDups_of_nodup {α : Type} [BEq α] [LawfulBEq α] {l : List α} (h : l.Nodup) : l.eraseDups = l := by
  induction l with
  | nil => rfl
  | cons p rest ih =>
    obtain ⟨notin, nodup⟩ := List.nodup_cons.mp h
    have others : ∀ q ∈ rest, (!q == p) = true := by
      intro q hq
      have other : q ≠ p := fun same => notin (same ▸ hq)
      simpa using other
    rw [List.eraseDups_cons, List.filter_eq_self.mpr others, ih nodup]

theorem valid_of_checkFields (h : d.checkFields = .ok ()) : ∀ f ∈ d.merged, f.validate = .ok () := by
  cases names : firstRepeated? [] (d.fields.map Field.name) with
  | some name =>
    simp only [checkFields, names] at h
    obtain ⟨_, h, _⟩ := Outcome.bind_ok.mp h
    cases h
  | none =>
    simp only [checkFields, names] at h
    obtain ⟨_, _, h⟩ := Outcome.bind_ok.mp h
    obtain ⟨_, valid, _⟩ := Outcome.bind_ok.mp h
    exact Outcome.forM_ok.mp valid

theorem declaredKey_eq_nil (h : d.declaredKey = .ok []) : d.key = [] ∧ d.inheritedKey = [] := by
  unfold declaredKey at h
  split at h
  · next own =>
    injection h with h
    exact ⟨by simpa using own, h⟩
  · next own =>
    split at h
    · cases h
    · injection h with h
      simp [h] at own

/-- the two ways to a key: at most one field is flagged and nothing declared, or names are and no field is flagged -/
theorem keyPositions_iff : d.keyPositions = .ok key ↔
    (d.declaredKey = .ok [] ∧ key = positionsWhere d.merged (·.isKey) ∧ key.length ≤ 1) ∨
      ∃ names, d.declaredKey = .ok names ∧ names ≠ [] ∧ (∀ f ∈ d.merged, f.isKey = false) ∧
        names.mapM d.lookup = .ok key ∧ key.Nodup := by
  unfold keyPositions
  constructor
  · intro h
    obtain ⟨declared, names, h⟩ := Outcome.bind_ok.mp h
    split at h
    · next empty =>
      obtain rfl : declared = [] := by simpa using empty
      split at h
      · cases h
      · next few =>
        injection h with h
        exact .inl ⟨names, h.symm, h ▸ Nat.le_of_not_lt few⟩
    · next some =>
      split at h
      · cases h
      · next none =>
        obtain ⟨positions, found, h⟩ := Outcome.bind_ok.mp h
        split at h
        · next distinct =>
          injection h with h
          have unflagged := positionsWhere_eq_nil.mp (by simpa using none)
          refine .inr ⟨declared, names, by simpa using some, unflagged, h ▸ found, ?_⟩
          exact h ▸ nodup_of_length_eraseDups distinct
        · cases h
  · rintro (⟨names, rfl, few⟩ | ⟨declared, names, some, none, found, distinct⟩)
    · rw [names, Outcome.ok_bind, if_pos List.isEmpty_nil, if_neg (Nat.not_lt_of_le few)]
    · have unflagged := positionsWhere_eq_nil.mpr none
      rw [names, Outcome.ok_bind, if_neg (by simpa using some), if_neg (by simpa using unflagged), found, Outcome.ok_bind,
        if_pos (by rw [eraseDups_of_nodup distinct])]

theorem nodup_of_keyPositions (h : d.keyPositions = .ok key) : key.Nodup := by
  rcases keyPositions_iff.mp h with ⟨_, rfl, _⟩ | ⟨_, _, _, _, _, nodup⟩
  · exact Model.nodup_positionsWhere ..
  · exact nodup

theorem unflagged_of_keyPositions (h : d.keyPositions = .ok key)
    (several : 1 < key.length ∨ d.key ≠ [] ∨ d.inheritedKey ≠ []) : ∀ f ∈ d.merged, f.isKey = false := by
  rcases keyPositions_iff.mp h with ⟨names, _, few⟩ | ⟨_, _, _, unflagged, _⟩
  · obtain ⟨own, parents⟩ := declaredKey_eq_nil names
    rcases several with several | several | several
    · omega
    · exact absurd own several
    · exact absurd parents several
  · exact unflagged

theorem exists_of_lookup {name : String} {p : Nat} (h : d.lookup name = .ok p) :
    (positionsWhere d.merged (·.name == name)).getLast? = some p ∧
      ∃ f, d.merged[p]? = some f ∧ f.name = name := by
  unfold lookup at h
  split at h
  · next last =>
    injection h with h
    subst h
    obtain ⟨f, hf, hn⟩ := mem_positionsWhere.mp (List.mem_of_getLast? last)
    exact ⟨last, f, hf, by simpa using hn⟩
  · cases h

theorem groups_of_checkGroups {what : String} {groups : List (List String)}
    (h : d.checkGroups what groups = .ok ()) :
    ∀ group ∈ groups, group ≠ [] ∧ ∀ name ∈ group, ∃ p, d.lookup name = .ok p := by
  intro group hg
  have passed := Outcome.forM_ok.mp h group hg
  split at passed
  · cases passed
  · next nonempty =>
    refine ⟨by simpa using nonempty, fun name hn => ?_⟩
    have found := Outcome.forM_ok.mp passed name hn
    split at found
    · next p hp => exact ⟨p, hp⟩
    · cases found

/-! ## What the checks say -/

theorem kind_of_validate {f : Field} (h : f.validate = .error e) : e.kind = .configuration := by
  unfold Field.validate at h
  split at h
  · injection h with h
    exact h ▸ rfl
  · cases h

theorem kind_of_checkFields (h : d.checkFields = .error e) : e.kind = .configuration := by
  cases names : firstRepeated? [] (d.fields.map Field.name) with
  | some name =>
    simp only [checkFields, names] at h
    rcases Outcome.bind_error.mp h with h | ⟨_, h, _⟩
    · injection h with h
      exact h ▸ rfl
    · cases h
  | none =>
    simp only [checkFields, names] at h
    rcases Outcome.bind_error.mp h with h | ⟨_, _, h⟩
    · cases h
    rcases Outcome.bind_error.mp h with h | ⟨_, _, h⟩
    · obtain ⟨f, _, h⟩ := Outcome.exists_of_forM_error h
      exact kind_of_validate h
    · split at h
      · injection h with h
        exact h ▸ rfl
      · cases h

theorem kind_of_lookup {name : String} (h : d.lookup name = .error e) : e.kind = .configuration := by
  unfold lookup at h
  split at h
  · cases h
  · injection h with h
    exact h ▸ rfl

theorem kind_of_declaredKey (h : d.declaredKey = .error e) : e.kind = .configuration := by
  unfold declaredKey at h
  split at h
  · cases h
  · split at h
    · injection h with h
      exact h ▸ rfl
    · cases h

theorem kind_of_keyPositions (h : d.keyPositions = .error e) : e.kind = .configuration := by
  rcases Outcome.bind_error.mp h with h | ⟨declared, _, h⟩
  · exact kind_of_declaredKey h
  · split at h
    · split at h
      · injection h with h
        exact h ▸ rfl
      · cases h
    · split at h
      · injection h with h
        exact h ▸ rfl
      · rcases Outcome.bind_error.mp h with h | ⟨_, _, h⟩
        · obtain ⟨name, _, h⟩ := Outcome.exists_of_mapM_error h
          exact kind_of_lookup h
        · split at h
          · cases h
          · injection h with h
            exact h ▸ rfl

theorem kind_of_checkKey (h : d.checkKey key = .error e) : e.kind = .configuration := by
  unfold checkKey at h
  split at h
  · injection h with h
    exact h ▸ rfl
  · split at h
    · injection h with h
      exact h ▸ rfl
    · cases h

theorem kind_of_checkVersion (h : d.checkVersion = .error e) : e.kind = .configuration := by
  unfold checkVersion at h
  split at h
  · injection h with h
    exact h ▸ rfl
  · cases h

theorem kind_of_checkGroups {what : String} {groups : List (List String)}
    (h : d.checkGroups what groups = .error e) : e.kind = .configuration := by
  obtain ⟨group, _, h⟩ := Outcome.exists_of_forM_error h
  split at h
  · injection h with h
    exact h ▸ rfl
  · obtain ⟨name, _, h⟩ := Outcome.exists_of_forM_error h
    split at h
    · cases h
    · injection h with h
      exact h ▸ rfl

/-! ## Building -/

theorem wellFormed_of_build (h : d.build = .ok m) : WellFormed d m := by
  have sound := sound_of_build h
  have checked := checked_of_build h
  have version := fun p => Model.versionPosition_iff (p := p) sound
  refine {
    columns := sound.columns
    key_lt := sound.key_lt
    key_nodup := nodup_of_keyPositions checked.positions
    key_required := fun p hp f hf => sound.key_required f (Model.mem_keyFields hp hf)
    key_ne := sound.key_ne
    unflagged := fun several =>
      checked.fields ▸ unflagged_of_keyPositions checked.positions
        (several.imp_left fun h => by simpa [Model.isComposite] using h)
    version_single := ?_
    version_position := version
    automatic_ascending := Model.pairwise_positionsWhere ..
    automatic_mem := fun p => Model.mem_automaticPositions
    groups := ?_
    valid := checked.fields ▸ valid_of_checkFields checked.besides.fields }
  · intro p q hp hq
    have first := (version p).mpr hp
    have second := (version q).mpr hq
    exact Option.some.inj (first.symm.trans second)
  · intro group hg
    rw [checked.unique, checked.indexes] at hg
    have grouped : group ≠ [] ∧ ∀ name ∈ group, ∃ p, d.lookup name = .ok p := by
      rcases List.mem_append.mp hg with hg | hg
      · exact groups_of_checkGroups checked.besides.unique group hg
      · exact groups_of_checkGroups checked.besides.indexes group hg
    refine ⟨grouped.1, fun name hn => ?_⟩
    obtain ⟨p, found⟩ := grouped.2 name hn
    obtain ⟨last, f, hf, named⟩ := exists_of_lookup found
    rw [← checked.fields] at last hf
    refine ⟨f, List.mem_of_getElem? hf, named, ?_⟩
    simp [Model.field?, Model.position?, last, hf]

theorem kind_of_build (h : d.build = .error e) : e.kind = .configuration := by
  rcases Outcome.bind_error.mp h with h | ⟨_, _, h⟩
  · exact kind_of_checkFields h
  rcases Outcome.bind_error.mp h with h | ⟨_, _, h⟩
  · exact kind_of_keyPositions h
  rcases Outcome.bind_error.mp h with h | ⟨_, _, h⟩
  · exact kind_of_checkKey h
  rcases Outcome.bind_error.mp h with h | ⟨_, _, h⟩
  · exact kind_of_checkVersion h
  rcases Outcome.bind_error.mp h with h | ⟨_, _, h⟩
  · exact kind_of_checkGroups h
  rcases Outcome.bind_error.mp h with h | ⟨_, _, h⟩
  · exact kind_of_checkGroups h
  · cases h

/-- **Building a draft gives a well-formed model or a configuration error.** -/
theorem build_settles (d : Draft) :
    match d.build with
    | .ok m => WellFormed d m
    | .error e => e.kind = .configuration := by
  split
  · next built => exact wellFormed_of_build built
  · next failed => exact kind_of_build failed

end Draft

end Tabula
