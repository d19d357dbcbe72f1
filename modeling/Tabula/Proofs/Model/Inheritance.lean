import Tabula.Proofs.Model.WellFormed
import Mathlib.Data.Option.Basic
/-!
# Inherited keys

A draft that extends one model, declares no key and puts no field in the place of a key field takes over the key of the
model, whether it is a flagged field or several named ones: `Draft.exists_key_inherit`.  A key that the parent has
declared by the name of one field is lost: `Draft.key_inherit_of_namesOneField`.
-/

namespace Tabula

namespace Model

variable {m : Model}

/-- positions inside of a list lead to fields -/
theorem map_getElem_of_lt {fields : List Field} {ps : List Nat} (inside : ∀ p ∈ ps, p < fields.length) :
    ps.map (fields[·]?) = (ps.filterMap (fields[·]?)).map some := by
  induction ps with
  | nil => rfl
  | cons p rest ih =>
    obtain ⟨here, others⟩ := List.forall_mem_cons.mp inside
    rw [List.map_cons, List.filterMap_cons, List.getElem?_eq_getElem here, ih others]
    rfl

theorem map_key (sound : m.Sound) : m.key.map (m.fields[·]?) = m.keyFields.map some := map_getElem_of_lt sound.key_lt

theorem length_keyFields (sound : m.Sound) : m.keyFields.length = m.key.length := by
  have same := congrArg List.length (map_key sound)
  rw [List.length_map, List.length_map] at same
  exact same.symm

theorem columns_keyFields (sound : m.Sound) : m.key.map m.column = m.keyFields.map Field.column := by
  have columns := congrArg (List.map fun f : Option Field => (f.map Field.column).getD "") (map_key sound)
  rw [List.map_map, List.map_map] at columns
  exact columns

theorem nodup_keyFields (sound : m.Sound) (distinct : m.key.Nodup) : m.keyFields.Nodup := by
  have apart : (m.key.map (m.fields[·]?)).Nodup := by
    refine List.Nodup.map_on (fun p hp q hq same => ?_) distinct
    have fields : m.fields.Nodup := sound.columns.of_map
    have inP := sound.key_lt p hp
    have inQ := sound.key_lt q hq
    rw [List.getElem?_eq_getElem inP, List.getElem?_eq_getElem inQ] at same
    exact (fields.getElem_inj_iff).mp (Option.some.inj same)
  rw [map_key sound] at apart
  exact apart.of_map

/-- the last position of a name is that of the last field of the name -/
theorem getLast_positionsWhere (fields : List Field) (q : Field → Bool) :
    (positionsWhere fields q).getLast?.bind (fields[·]?) = (fields.filter q).getLast? := by
  have last := congrArg List.getLast? (map_positionsWhere fields q)
  rw [List.getLast?_map, List.getLast?_map] at last
  cases found : (fields.filter q).getLast? <;> cases there : (positionsWhere fields q).getLast? <;> simp_all

end Model

namespace Draft

open Model (WellFormed positionsWhere map_positionsWhere positionsWhere_eq_nil)

variable {d c : Draft} {m : Model}

/-! ## The check of a key -/

theorem checkKey_ok {key : List Nat} (nonempty : key ≠ [])
    (required : ∀ f ∈ key.filterMap (d.merged[·]?), f.nullable = false) : d.checkKey key = .ok () := by
  have some : (!d.resultIsAbstract && key.isEmpty) = false := by simp [nonempty]
  have none : (key.filterMap (d.merged[·]?)).find? (·.nullable) = none := by
    rw [List.find?_eq_none]
    intro f hf
    simp [required f hf]
  rw [checkKey, some, if_neg Bool.false_ne_true, none]

/-! ## Extending a model -/

/-- whether a draft has inherited nothing so far and leaves the key to a parent -/
structure LeavesKey (c : Draft) (parent : Model) : Prop where
  inherited : c.inherited = []
  inheritedKey : c.inheritedKey = []
  key : c.key = []
  unflagged : ∀ f ∈ c.fields, f.isKey = false
  /-- no key field is replaced -/
  others : ∀ f ∈ c.fields, f.name ∉ parent.keyNames

theorem merged_inherit (leaves : c.LeavesKey m) :
    (c.inherit m).merged = m.fields.filter (fun p => c.fields.all (·.name != p.name)) ++ c.fields := by
  simp [merged, kept, inherit, leaves.inherited]

theorem declaredKey_inherit (leaves : c.LeavesKey m) :
    (c.inherit m).declaredKey = .ok (if m.isComposite then m.keyNames else []) := by
  simp [declaredKey, inherit, leaves.key, leaves.inheritedKey]

theorem unflagged_inherit (leaves : c.LeavesKey m) (unflagged : ∀ f ∈ m.fields, f.isKey = false) :
    ∀ f ∈ (c.inherit m).merged, f.isKey = false := by
  intro f hf
  rw [merged_inherit leaves] at hf
  rcases List.mem_append.mp hf with hf | hf
  · exact unflagged f (List.mem_filter.mp hf).1
  · exact leaves.unflagged f hf

/-- fields that are not replaced are found among all fields as among those of the parent -/
theorem filter_inherit (leaves : c.LeavesKey m) {q : Field → Bool} (own : ∀ g ∈ c.fields, q g = false)
    (apart : ∀ f ∈ m.fields, q f = true → ∀ g ∈ c.fields, g.name ≠ f.name) :
    (c.inherit m).merged.filter q = m.fields.filter q := by
  have none : c.fields.filter q = [] := List.filter_eq_nil_iff.mpr fun g hg => by simp [own g hg]
  rw [merged_inherit leaves, List.filter_append, none, List.append_nil, List.filter_filter]
  refine List.filter_congr fun f hf => ?_
  cases found : q f with
  | false => rfl
  | true => simpa using apart f hf found

/-- names of parent fields that are all found -/
theorem exists_mapM_lookup {fs : List Field} (found : ∀ f ∈ fs, ∃ p, d.lookup f.name = .ok p ∧ d.merged[p]? = some f) :
    ∃ ps, (fs.map Field.name).mapM d.lookup = .ok ps ∧ ps.map (d.merged[·]?) = fs.map some := by
  induction fs with
  | nil => exact ⟨[], rfl, rfl⟩
  | cons f rest ih =>
    obtain ⟨⟨p, lookup, there⟩, others⟩ := List.forall_mem_cons.mp found
    obtain ⟨ps, lookups, fields⟩ := ih others
    refine ⟨p :: ps, ?_, by rw [List.map_cons, List.map_cons, there, fields]⟩
    rw [List.map_cons, List.mapM_cons, lookup, Outcome.ok_bind, lookups]
    rfl

/-- a key field that its name finds in the parent is found by it in the child -/
theorem lookup_inherit (leaves : c.LeavesKey m) {f : Field} (key : f ∈ m.keyFields)
    (named : (m.fields.filter (·.name == f.name)).getLast? = some f) :
    ∃ p, (c.inherit m).lookup f.name = .ok p ∧ (c.inherit m).merged[p]? = some f := by
  have name : f.name ∈ m.keyNames := List.mem_map_of_mem key
  have own : ∀ g ∈ c.fields, g.name ≠ f.name := fun g hg same => leaves.others g hg (same ▸ name)
  have same : (c.inherit m).merged.filter (·.name == f.name) = m.fields.filter (·.name == f.name) := by
    refine filter_inherit leaves (fun g hg => by simp [own g hg]) fun f' _ named g hg => ?_
    simp only [beq_iff_eq] at named
    exact named ▸ own g hg
  have last := Model.getLast_positionsWhere (c.inherit m).merged (·.name == f.name)
  rw [same, named] at last
  obtain ⟨p, found, there⟩ := Option.bind_eq_some_iff.mp last
  exact ⟨p, by rw [lookup, found], there⟩

/-- whether the key is declared by the name of one field -/
def namesOneField (d : Draft) : Bool :=
  match d.declaredKey with
  | .ok [_] => true
  | _ => false

theorem namesOneField_iff {names : List String} (declared : d.declaredKey = .ok names) :
    d.namesOneField = true ↔ names.length = 1 := by
  rw [namesOneField, declared]
  match names with
  | [] => simp
  | [_] => simp
  | _ :: _ :: _ => simp

theorem length_of_lookups {names : List String} {key : List Nat} (h : names.mapM d.lookup = .ok key) :
    names.length = key.length :=
  (Outcome.mapM_ok.mp h).length_eq

/-- a field that was looked up by its name is the last of that name -/
theorem named_of_lookups (fields : m.fields = d.merged) {names : List String}
    (lookups : names.mapM d.lookup = .ok m.key) {f : Field} (hf : f ∈ m.keyFields) : (m.fields.filter (·.name == f.name)).getLast? = some f := by
  obtain ⟨p, hp, there⟩ := List.mem_filterMap.mp hf
  obtain ⟨name, _, looked⟩ := Outcome.exists_of_mem_mapM lookups hp
  obtain ⟨last, f', there', named⟩ := exists_of_lookup looked
  rw [fields] at there
  obtain rfl : f' = f := Option.some.inj (there'.symm.trans there)
  rw [fields, ← Model.getLast_positionsWhere, named, last]
  exact there

/-- the key fields are the flagged fields if nothing else is declared -/
theorem filter_isKey (built : d.build = .ok m) (key : m.key = positionsWhere d.merged (·.isKey)) :
    m.fields.filter (·.isKey) = m.keyFields := by
  have same := Model.map_key (sound_of_build built)
  rw [key, ← (checked_of_build built).fields, map_positionsWhere] at same
  exact List.map_injective_iff.mpr (Option.some_injective _) same

/-- the flagged field of the parent is that of the child -/
theorem exists_key_inherit_flagged (built : d.build = .ok m) (leaves : c.LeavesKey m)
    (key : m.key = positionsWhere d.merged (·.isKey)) (few : m.key.length ≤ 1) :
    ∃ key, (c.inherit m).keyPositions = .ok key ∧ key.map ((c.inherit m).merged[·]?) = m.keyFields.map some := by
  have single : m.isComposite = false := by simpa [Model.isComposite] using few
  have nothing : (c.inherit m).declaredKey = .ok [] := by simp [declaredKey_inherit leaves, single]
  have flagged := filter_isKey built key
  have child : (c.inherit m).merged.filter (·.isKey) = m.keyFields := by
    rw [← flagged]
    refine filter_inherit leaves leaves.unflagged fun f hf flag g hg same => ?_
    have mem : f ∈ m.keyFields := flagged ▸ List.mem_filter.mpr ⟨hf, flag⟩
    exact leaves.others g hg (same ▸ List.mem_map_of_mem mem)
  have found := map_positionsWhere (c.inherit m).merged (·.isKey)
  rw [child] at found
  have length : (positionsWhere (c.inherit m).merged (·.isKey)).length ≤ 1 := by
    have lengths := congrArg List.length found
    rw [List.length_map, List.length_map, Model.length_keyFields (sound_of_build built)] at lengths
    exact lengths ▸ few
  exact ⟨_, keyPositions_iff.mpr (.inl ⟨nothing, rfl, length⟩), found⟩

/-- the names of the key of the parent lead to its fields in the child -/
theorem exists_key_inherit_named (built : d.build = .ok m) (leaves : c.LeavesKey m) {names : List String}
    (two : 1 < names.length) (unflagged : ∀ f ∈ d.merged, f.isKey = false) (lookups : names.mapM d.lookup = .ok m.key)
    (distinct : m.key.Nodup) :
    ∃ key, (c.inherit m).keyPositions = .ok key ∧ key.map ((c.inherit m).merged[·]?) = m.keyFields.map some := by
  have sound := sound_of_build built
  have fields := (checked_of_build built).fields
  have length := length_of_lookups lookups
  have composite : m.isComposite = true := by simpa [Model.isComposite, ← length] using two
  have inherited : (c.inherit m).declaredKey = .ok m.keyNames := by simp [declaredKey_inherit leaves, composite]
  have none := unflagged_inherit leaves (fields ▸ unflagged)
  obtain ⟨ps, looked, there⟩ := exists_mapM_lookup fun f hf =>
    lookup_inherit leaves hf (named_of_lookups fields lookups hf)
  have apart : ps.Nodup := by
    have keyFields := (Model.nodup_keyFields sound distinct).map (Option.some_injective _)
    rw [← there] at keyFields
    exact keyFields.of_map
  have nonempty : m.keyNames ≠ [] := by
    rw [← List.length_pos_iff, Model.keyNames, List.length_map, Model.length_keyFields sound]
    omega
  exact ⟨ps, keyPositions_iff.mpr (.inr ⟨_, inherited, nonempty, none, looked, apart⟩), there⟩

/-- **A draft takes over the key of the model that it extends.** -/
theorem exists_key_inherit (built : d.build = .ok m) (several : d.namesOneField = false) (leaves : c.LeavesKey m) :
    ∃ key, (c.inherit m).keyPositions = .ok key ∧ key.map ((c.inherit m).merged[·]?) = m.keyFields.map some := by
  rcases keyPositions_iff.mp (checked_of_build built).positions with
    ⟨_, key, few⟩ | ⟨names, declared, some, unflagged, lookups, distinct⟩
  · exact exists_key_inherit_flagged built leaves key few
  · have nonempty := List.length_pos_iff.mpr some
    have other : names.length ≠ 1 := fun one => by simp [(namesOneField_iff declared).mpr one] at several
    exact exists_key_inherit_named built leaves (by omega) unflagged lookups distinct

/-- **A key that is declared by the name of one field is lost to the drafts that extend the model.** -/
theorem key_inherit_of_namesOneField (built : d.build = .ok m) (one : d.namesOneField = true) (leaves : c.LeavesKey m) :
    (c.inherit m).keyPositions = .ok [] := by
  have checked := checked_of_build built
  rcases keyPositions_iff.mp checked.positions with ⟨declared, _⟩ | ⟨names, declared, _, unflagged, lookups, _⟩
  · cases (namesOneField_iff declared).mp one
  · have length := (namesOneField_iff declared).mp one
    have single : m.isComposite = false := by simp [Model.isComposite, ← length_of_lookups lookups, length]
    have nothing : (c.inherit m).declaredKey = .ok [] := by simp [declaredKey_inherit leaves, single]
    have none := positionsWhere_eq_nil.mpr (unflagged_inherit leaves (checked.fields ▸ unflagged))
    exact keyPositions_iff.mpr (.inl ⟨nothing, none.symm, Nat.zero_le 1⟩)

end Draft

end Tabula
