import Tabula.Proofs.Model.Inheritance
import Tabula.Proofs.Schema.TableText
/-!
# The primary key of a table

`Draft.declares_key`: the table definition of a model that is not abstract declares one primary key, with the columns of
the model's key in their order, and so does that of a model that takes over the key.  A key that the draft has declared
by the name of one field is the exception: its table has no primary key, and no other model gets it.
-/

namespace Tabula

open Schema (Entry primaryKeys? primaryKeys_text)

namespace Model

variable {m : Model}

/-- the columns of a table have the types of the kinds of fields -/
theorem isTyped_tableEntries (m : Model) : ∀ e ∈ m.tableEntries, e.IsTyped := by
  intro e he
  rcases List.mem_append.mp he with he | he
  · rcases List.mem_append.mp he with he | he
    · obtain ⟨f, _, rfl⟩ := List.mem_map.mp he
      exact ⟨f.kind, rfl⟩
    · split at he
      · obtain rfl := List.mem_singleton.mp he
        trivial
      · cases he
  · obtain ⟨group, _, rfl⟩ := List.mem_map.mp he
    trivial

/-- the keys of the entries: that of a composite key, or one for each flagged field -/
theorem keys_tableEntries (m : Model) : m.tableEntries.filterMap Entry.key? =
    if m.isComposite then [m.key.map m.column] else (m.fields.filter (·.isKey)).map fun f => [f.column] := by
  have groups : (m.uniqueTogether.map fun group =>
      Entry.unique (Schema.name "uid" m.table (m.columnsOf group)) (m.columnsOf group)).filterMap Entry.key? = [] := by
    simp [Entry.key?, List.filterMap_eq_nil_iff]
  rw [tableEntries, List.filterMap_append, List.filterMap_append, groups, List.append_nil, List.filterMap_map]
  cases composite : m.isComposite with
  | true =>
    have none : m.fields.filterMap (Entry.key? ∘ fun f => .column (f.columnDefinition true)) = [] := by
      simp [Entry.key?, Field.columnDefinition]
    rw [none]
    rfl
  | false =>
    have flagged : m.fields.filterMap (Entry.key? ∘ fun f => .column (f.columnDefinition false)) =
        (m.fields.filter (·.isKey)).map fun f => [f.column] := by
      rw [← List.filterMap_eq_map, List.filterMap_filter]
      refine List.filterMap_congr fun f _ => ?_
      cases flag : f.isKey <;> simp [Entry.key?, Field.columnDefinition, flag]
    simpa using flagged

/-- **The keys in the text of a table definition**, whether safe or not. -/
theorem primaryKeys_createTable (m : Model) (safe : Bool) : primaryKeys? (m.createTable safe).text =
    some (if m.isComposite then [m.key.map m.column] else (m.fields.filter (·.isKey)).map fun f => [f.column]) := by
  rw [createTable, primaryKeys_text safe m.table m.isTyped_tableEntries, keys_tableEntries]

end Model

namespace Draft

variable {d c : Draft} {m child : Model}

/-- what the table of a built model declares as its key -/
theorem primaryKeys_of_build (built : d.build = .ok m) (concrete : m.isAbstract = false) (safe : Bool) :
    primaryKeys? (m.createTable safe).text = some (if d.namesOneField then [] else [m.key.map m.column]) := by
  have sound := sound_of_build built
  have nonempty := List.length_pos_iff.mpr (sound.key_ne concrete)
  have checked := checked_of_build built
  rw [Model.primaryKeys_createTable]
  rcases keyPositions_iff.mp checked.positions with ⟨declared, key, few⟩ | ⟨names, declared, _, unflagged, lookups, _⟩
  · -- a flagged field is the key
    have single : m.isComposite = false := by simpa [Model.isComposite] using few
    have other : d.namesOneField = false := by simp [Bool.eq_false_iff, namesOneField_iff declared]
    obtain ⟨f, alone⟩ : ∃ f, m.keyFields = [f] := by
      have length := Model.length_keyFields sound
      exact List.length_eq_one_iff.mp (by omega)
    simp [single, other, filter_isKey built key, Model.columns_keyFields sound, alone]
  · -- names are, so no field is flagged
    have none : m.fields.filter (·.isKey) = [] := by
      rw [List.filter_eq_nil_iff]
      intro f hf
      simp [unflagged f (checked.fields ▸ hf)]
    have length := length_of_lookups lookups
    by_cases one : names.length = 1
    · have single : m.isComposite = false := by simp [Model.isComposite, ← length, one]
      simp [single, none, (namesOneField_iff declared).mpr one]
    · have composite : m.isComposite = true := by
        simp only [Model.isComposite, decide_eq_true_eq]
        omega
      have other : d.namesOneField = false := by simp [Bool.eq_false_iff, namesOneField_iff declared, one]
      simp [composite, other]

/-! ## Models that take over a key -/

/-- a child has the key fields of its parent -/
theorem keyFields_of_inherit (built : d.build = .ok m) (several : d.namesOneField = false) (leaves : c.LeavesKey m)
    (extended : (c.inherit m).build = .ok child) : child.keyFields = m.keyFields := by
  have checked := checked_of_build extended
  obtain ⟨key, same, there⟩ := exists_key_inherit built several leaves
  obtain rfl : child.key = key := Except.ok.inj (checked.positions.symm.trans same)
  rw [← checked.fields, Model.map_key (sound_of_build extended)] at there
  exact List.map_injective_iff.mpr (Option.some_injective _) there

/-- the key passes its check, so that only the other checks can refuse the child -/
theorem builds_inherit_iff (built : d.build = .ok m) (concrete : m.isAbstract = false)
    (several : d.namesOneField = false) (leaves : c.LeavesKey m) :
    (∃ child, (c.inherit m).build = .ok child) ↔ (c.inherit m).SoundBesidesKey := by
  have sound := sound_of_build built
  obtain ⟨key, positions, there⟩ := exists_key_inherit built several leaves
  have fields : key.filterMap ((c.inherit m).merged[·]?) = m.keyFields := by
    have inside := Model.map_getElem_of_lt (lt_of_keyPositions positions)
    rw [there] at inside
    exact (List.map_injective_iff.mpr (Option.some_injective _) inside).symm
  have nonempty : key ≠ [] := by
    have some := List.length_pos_iff.mpr (sound.key_ne concrete)
    rw [← Model.length_keyFields sound, ← fields] at some
    exact List.ne_nil_of_length_pos (some.trans_le (List.length_filterMap_le _ _))
  have checked := checkKey_ok nonempty fun f hf => sound.key_required f (fields ▸ hf)
  rw [builds_iff]
  exact and_iff_left ⟨key, positions, checked⟩

/-- no other key is declared for a child -/
theorem namesOneField_inherit (built : d.build = .ok m) (leaves : c.LeavesKey m) :
    (c.inherit m).namesOneField = false := by
  rw [Bool.eq_false_iff, Ne, namesOneField_iff (declaredKey_inherit leaves)]
  cases composite : m.isComposite with
  | false => simp
  | true =>
    have several : 1 < m.key.length := by simpa [Model.isComposite] using composite
    rw [if_pos rfl, Model.keyNames, List.length_map, Model.length_keyFields (sound_of_build built)]
    omega

/-- **The table of a model declares its key.**  The text of the table definition of a model that is not abstract, safe
or not, declares exactly one primary key, with the columns of the model's key in key order, whether the key is a flagged
field, several named ones, or inherited; only if it was declared by the name of one field there is no primary key.  A
draft that extends the model and leaves the key to it builds just if it passes the checks that are not about keys, and
has the same key fields and the same primary key; if the key was declared by the name of one field, the draft has none
and builds only as an abstract model. -/
theorem declares_key (built : d.build = .ok m) (concrete : m.isAbstract = false) :
    (∀ safe, primaryKeys? (m.createTable safe).text =
      some (if d.namesOneField then [] else [m.key.map m.column])) ∧
    ∀ c : Draft, c.LeavesKey m →
      (d.namesOneField = false →
        ((∃ child, (c.inherit m).build = .ok child) ↔ (c.inherit m).SoundBesidesKey) ∧
        ∀ child, (c.inherit m).build = .ok child → child.keyFields = m.keyFields ∧
          (child.isAbstract = false → ∀ safe, primaryKeys? (child.createTable safe).text =
            some [m.key.map m.column])) ∧
      (d.namesOneField = true → ∀ child, (c.inherit m).build = .ok child →
        child.isAbstract = true ∧ child.key = []) := by
  have sound := sound_of_build built
  refine ⟨primaryKeys_of_build built concrete, fun c leaves => ⟨fun several => ?_, fun one child extended => ?_⟩⟩
  · refine ⟨builds_inherit_iff built concrete several leaves, fun child extended => ?_⟩
    have same := keyFields_of_inherit built several leaves extended
    refine ⟨same, fun childConcrete safe => ?_⟩
    have other := namesOneField_inherit built leaves
    have columns : child.key.map child.column = m.key.map m.column := by
      rw [Model.columns_keyFields (sound_of_build extended), same, Model.columns_keyFields sound]
    rw [primaryKeys_of_build extended childConcrete safe, other, columns]
    rfl
  · have lost := key_inherit_of_namesOneField built one leaves
    have positions := (checked_of_build extended).positions
    have none : child.key = [] := Except.ok.inj (positions.symm.trans lost)
    have needed := (sound_of_build extended).key_ne
    refine ⟨?_, none⟩
    by_contra childConcrete
    exact needed (by simpa using childConcrete) none

/-- registrations for a course, which are told apart by the person and the course -/
def registrations : Draft where
  name := "Registration"
  fields := [Field.new "person" .bigInt, Field.new "course" (.char 20)]
  key := ["course", "person"]

/-- registrations with a mark -/
def markedRegistrations : Draft where
  name := "MarkedRegistration"
  fields := [Field.new "mark" .smallInt]

theorem declares_key_registrations : ∃ parent child, registrations.build = .ok parent ∧
    (markedRegistrations.inherit parent).build = .ok child ∧
    primaryKeys? (parent.createTable true).text = some [["course", "person"]] ∧
    primaryKeys? (child.createTable false).text = some [["course", "person"]] := by
  refine ⟨_, _, rfl, rfl, ?_, ?_⟩
  · exact (declares_key (d := registrations) rfl rfl).1 true
  · have settled := (declares_key (d := registrations) rfl rfl).2 markedRegistrations
    obtain ⟨_, extended⟩ := (settled ⟨rfl, rfl, rfl, by decide, by decide⟩).1 rfl
    exact (extended _ rfl).2 rfl false

/-- items with a key that is declared by its name -/
def namedItems : Draft where
  name := "Item"
  fields := [Field.new "id" .bigInt, Field.new "size" .int]
  key := ["id"]

/-- the table of these items has no primary key, and no other model can extend them -/
theorem undeclared_key_namedItems : ∃ m, namedItems.build = .ok m ∧ m.isAbstract = false ∧
    m.key.map m.column = ["id"] ∧ primaryKeys? (m.createTable true).text = some [] ∧
    (Draft.inherit m { name := "SmallItem" }).build =
      .error ⟨.configuration, "SmallItem: model must have pk or be abstract."⟩ := by
  refine ⟨_, rfl, rfl, rfl, ?_, rfl⟩
  rw [Model.primaryKeys_createTable]
  rfl

end Draft

end Tabula
