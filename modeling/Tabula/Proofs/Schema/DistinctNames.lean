import Tabula.Proofs.Model.Names
import Tabula.Proofs.Schema.Boundaries
import Tabula.Proofs.Schema.Script
/-!
# Names given in a script

A script gives a name to every group that is unique and to every index.  `Draft.gives_distinct_names_iff`: where the
digest tells the column lists of a model apart, these names are pairwise distinct just if the model declares nothing
twice.  Building does not see to that: a field that gets an index of its own can be the only one of a declared index
as well.
-/

namespace Tabula

namespace Schema

/-! ## Names -/

variable {use use' table : String} {fields fields' : List String}

/-- names that are equal end in the same digits -/
theorem nameDigest_eq_of_name_eq (same : name use table fields = name use' table fields') :
    nameDigest table fields = nameDigest table fields' := by
  obtain ⟨head, named, -⟩ := name_eq use table fields
  obtain ⟨head', named', -⟩ := name_eq use' table fields'
  rw [named, named'] at same
  have chars := congrArg String.toList same
  simp only [String.toList_append] at chars
  have length : (nameDigest table fields).toList.length = (nameDigest table fields').toList.length := by
    rw [length_nameDigest, length_nameDigest]
  exact String.toList_injective (List.append_inj' chars length).2

/-- a name begins with the letters that say what it is for -/
theorem head_name (use table : String) (fields : List String) {c : Char} {rest : List Char}
    (letters : use.toList = c :: rest) (ascii : c.utf8Size = 1) : (name use table fields).toList.head? = some c := by
  obtain ⟨head, named, longest⟩ := name_eq use table fields
  obtain ⟨hidden, begins⟩ := longest.begins
  obtain ⟨later, shown⟩ : ∃ later, (shownPart use table fields).toList = c :: later := by
    rw [shownPart, String.toList_append, String.toList_append, String.toList_append, String.toList_append, letters]
    exact ⟨_, rfl⟩
  -- the letter alone fits, so the cut leaves it
  have first : shownPart use table fields = String.singleton c ++ String.ofList later := by
    apply String.toList_injective
    rw [shown, String.toList_append, String.toList_singleton, String.toList_ofList, List.singleton_append]
  have least := longest.longest _ _ first
  rw [String.utf8ByteSize_singleton, ascii] at least
  rw [begins, String.toList_append] at shown
  rw [named, String.toList_append, String.toList_append]
  cases letters : head.toList with
  | nil =>
    obtain rfl : head = "" := String.toList_eq_nil_iff.mp letters
    exact absurd (least (by decide)) (by decide)
  | cons d left =>
    rw [letters] at shown
    exact congrArg some (List.cons.inj shown).1

/-- no constraint is named as an index is -/
theorem constraint_ne_index (table : String) (fields fields' : List String) :
    name "uid" table fields ≠ name "idx" table fields' := by
  intro same
  have constraint := head_name "uid" table fields (show "uid".toList = ['u', 'i', 'd'] from rfl) rfl
  have index := head_name "idx" table fields' (show "idx".toList = ['i', 'd', 'x'] from rfl) rfl
  rw [same, index] at constraint
  exact absurd (Option.some.inj constraint) (by decide)

/-- the digest tells lists of columns of a table apart -/
def TellsApart (table : String) (lists : List (List String)) : Prop :=
  ∀ columns ∈ lists, ∀ others ∈ lists, nameDigest table columns = nameDigest table others → columns = others

theorem TellsApart.of_subset {table : String} {lists part : List (List String)} (telling : TellsApart table lists)
    (subset : part ⊆ lists) : TellsApart table part :=
  fun columns hc others ho => telling columns (subset hc) others (subset ho)

/-- the names for lists are distinct just if the lists are -/
theorem nodup_names_iff {table : String} {lists : List (List String)} (use : String)
    (telling : TellsApart table lists) : (lists.map (name use table)).Nodup ↔ lists.Nodup :=
  ⟨List.Nodup.of_map _, fun distinct => distinct.map_on fun columns hc others ho same =>
    telling columns hc others ho (nameDigest_eq_of_name_eq same)⟩

/-! ## What a script names -/

/-- the name of a constraint -/
def Part.givenName? : Part → Option String
  | .unique name _ => some name
  | .column .. | .primaryKey _ => none

/-- the names that a statement gives to constraints and indexes -/
def Declaration.givenNames : Declaration → List String
  | .table _ _ parts => parts.filterMap Part.givenName?
  | .index _ name _ _ => [name]
  | .tableComment .. | .columnComment .. => []

/-- the names that a script gives, as they stand in its text -/
def givenNames? (script : String) : Option (List String) :=
  (declarations? script).map (·.flatMap Declaration.givenNames)

end Schema

/-- whether a field gets an index of its own: one that is a key or unique has one anyway -/
def Field.hasOwnIndex (f : Field) : Bool := f.isIndexed && !f.isKey && !f.isUnique

namespace Model

open Schema (Declaration Part TellsApart nodup_names_iff)

variable {d : Draft} {m : Model}

/-- the names that the script of a model gives -/
def givenNames (m : Model) (safe : Bool) : List String :=
  ((m.script safe).filterMap Schema.Ddl.declared?).flatMap Declaration.givenNames

/-- the column lists that a model has named: those of the unique groups and those of the indexes -/
def namedColumns (m : Model) : List (List String) := m.uniqueTogether.map m.columnsOf ++ m.indexedColumns

/-- nothing is declared twice: no unique group, no index, and no index by a field and by a group -/
structure DeclaresOnce (m : Model) : Prop where
  unique : m.uniqueTogether.Nodup
  indexes : m.indexes.Nodup
  fields : ∀ f ∈ m.fields, f.hasOwnIndex = true → [f.column] ∉ m.indexes.map m.columnsOf

/-- a table gives names to its unique groups, in their order -/
theorem givenNames_tableEntries (m : Model) : (m.tableEntries.map Schema.Entry.part).filterMap Part.givenName? =
    (m.uniqueTogether.map m.columnsOf).map (Schema.name "uid" m.table) := by
  have columns : m.fields.filterMap (fun f =>
      (Schema.Entry.column (f.columnDefinition m.isComposite)).part.givenName?) = [] :=
    List.filterMap_eq_nil_iff.mpr fun _ _ => rfl
  have key : (if m.isComposite then [Schema.Entry.primaryKey (m.key.map m.column)] else []).filterMap
      (fun e => e.part.givenName?) = [] := by
    cases m.isComposite <;> rfl
  have unique : m.uniqueTogether.filterMap (fun group =>
      (Schema.Entry.unique (Schema.name "uid" m.table (m.columnsOf group)) (m.columnsOf group)).part.givenName?) =
      (m.uniqueTogether.map m.columnsOf).map (Schema.name "uid" m.table) := by
    rw [List.map_map, ← List.filterMap_eq_map]
    rfl
  rw [List.filterMap_map, tableEntries, List.filterMap_append, List.filterMap_append, List.filterMap_map,
    List.filterMap_map]
  exact congrArg₂ (· ++ ·) (congrArg₂ (· ++ ·) columns key) unique

/-- every index is given a name -/
theorem givenNames_createIndexes (m : Model) (safe : Bool) :
    ((m.createIndexes safe).filterMap Schema.Ddl.declared?).flatMap Declaration.givenNames =
      m.indexedColumns.map (Schema.name "idx" m.table) := by
  rw [declared_createIndexes, List.flatMap_map, List.map_eq_flatMap]
  rfl

/-- comments name nothing -/
theorem givenNames_comments (m : Model) :
    (m.comments.filterMap Schema.Ddl.declared?).flatMap Declaration.givenNames = [] := by
  rw [List.flatMap_eq_nil_iff]
  intro x hx
  obtain ⟨d, hd, stands⟩ := List.mem_filterMap.mp hx
  rcases List.mem_append.mp hd with hd | hd
  · obtain ⟨text, _, rfl⟩ := List.mem_map.mp hd
    obtain rfl := Option.some.inj stands
    rfl
  · obtain ⟨f, _, described⟩ := List.mem_filterMap.mp hd
    obtain ⟨text, _, rfl⟩ := Option.map_eq_some_iff.mp described
    obtain rfl := Option.some.inj stands
    rfl

/-- the constraints are named in the table, the indexes behind it -/
theorem givenNames_eq (m : Model) (safe : Bool) : m.givenNames safe =
    (m.uniqueTogether.map m.columnsOf).map (Schema.name "uid" m.table)
      ++ m.indexedColumns.map (Schema.name "idx" m.table) := by
  have table : (m.createTable safe).declared? =
      some (.table safe m.table (m.tableEntries.map Schema.Entry.part)) := rfl
  rw [givenNames, script, List.filterMap_cons_some table, List.filterMap_append, List.flatMap_cons,
    List.flatMap_append, givenNames_createIndexes, givenNames_comments, List.append_nil, Declaration.givenNames,
    givenNames_tableEntries]

/-- the text of the script gives these names -/
theorem givenNames_scriptText (built : d.build = .ok m) (concrete : m.isAbstract = false) (safe : Bool) :
    Schema.givenNames? (m.scriptText safe) = some (m.givenNames safe) := by
  rw [Schema.givenNames?, scriptText, Schema.declarations_scriptText (complete_script built concrete safe),
    Option.map_some, givenNames]

/-- the columns of a group lead back to its names -/
theorem names_of_columnsOf (built : d.build = .ok m) {group : List String}
    (hg : group ∈ m.uniqueTogether ++ m.indexes) :
    (m.columnsOf group).map (fun column => (m.fieldForColumn? column).map Field.name) = group.map some := by
  have sound := Draft.wellFormed_of_build built
  have back := congrArg (List.map (·.bind fun column => (m.fieldForColumn? column).map Field.name))
    (columns_of_group built group hg)
  rw [List.map_map, List.map_map] at back
  refine back.trans (List.map_congr_left fun name hn => ?_)
  obtain ⟨f, hf, named, found⟩ := (sound.groups group hg).2 name hn
  rw [Function.comp_apply, found, Option.map_some, Option.bind_some, fieldForColumn_of_mem sound.columns hf,
    Option.map_some, named]

/-- groups have distinct columns just if they are distinct -/
theorem nodup_columnsOf_iff (built : d.build = .ok m) {groups : List (List String)}
    (declared : groups ⊆ m.uniqueTogether ++ m.indexes) : (groups.map m.columnsOf).Nodup ↔ groups.Nodup := by
  refine ⟨List.Nodup.of_map _, fun distinct => distinct.map_on fun group hg other ho same => ?_⟩
  have names := names_of_columnsOf built (declared hg)
  rw [same, names_of_columnsOf built (declared ho)] at names
  exact List.map_injective_iff.mpr (Option.some_injective _) names.symm

/-- indexes are on distinct columns just if the groups are distinct and none is a field with an index of its own -/
theorem nodup_indexedColumns_iff (built : d.build = .ok m) : m.indexedColumns.Nodup ↔
    m.indexes.Nodup ∧ ∀ f ∈ m.fields, f.hasOwnIndex = true → [f.column] ∉ m.indexes.map m.columnsOf := by
  have split : m.indexedColumns =
      (m.fields.filter Field.hasOwnIndex).map (fun f => [f.column]) ++ m.indexes.map m.columnsOf := rfl
  have own : ((m.fields.filter Field.hasOwnIndex).map fun f => [f.column]).Nodup := by
    have columns : ((m.fields.filter Field.hasOwnIndex).map Field.column).Nodup :=
      (Draft.wellFormed_of_build built).columns.sublist (List.filter_sublist.map _)
    have lists := columns.map (f := fun column => [column]) List.singleton_injective
    rwa [List.map_map] at lists
  rw [split, List.nodup_append', nodup_columnsOf_iff built (List.subset_append_right _ _), List.disjoint_left]
  simp only [own, true_and, List.forall_mem_map, List.mem_filter, and_imp]

end Model

namespace Draft

open Model (givenNames_eq)

variable {d : Draft} {m : Model}

/-- **The names in a script are distinct just if nothing is declared twice.**  For every model that a draft builds, with
whatever fields that have an index, indexes and unique groups: if the digest tells apart the column lists that the
script names, the names of all unique constraints and indexes are pairwise distinct exactly when no unique group and no
index is declared twice, and no index is on the one column of a field that has an index of its own.  These are the names
that stand in the text of the script, safe or not. -/
theorem gives_distinct_names_iff (built : d.build = .ok m) (telling : Schema.TellsApart m.table m.namedColumns)
    (safe : Bool) :
    (m.isAbstract = false → Schema.givenNames? (m.scriptText safe) = some (m.givenNames safe)) ∧
    ((m.givenNames safe).Nodup ↔ m.DeclaresOnce) := by
  refine ⟨fun concrete => Model.givenNames_scriptText built concrete safe, ?_⟩
  have uniqueTelling := telling.of_subset (List.subset_append_left (m.uniqueTogether.map m.columnsOf) m.indexedColumns)
  have indexTelling := telling.of_subset (List.subset_append_right (m.uniqueTogether.map m.columnsOf) m.indexedColumns)
  have apart : List.Disjoint ((m.uniqueTogether.map m.columnsOf).map (Schema.name "uid" m.table))
      (m.indexedColumns.map (Schema.name "idx" m.table)) := by
    intro name unique index
    obtain ⟨columns, _, rfl⟩ := List.mem_map.mp unique
    obtain ⟨others, _, same⟩ := List.mem_map.mp index
    exact Schema.constraint_ne_index m.table columns others same.symm
  calc (m.givenNames safe).Nodup
      ↔ (m.uniqueTogether.map m.columnsOf).Nodup ∧ m.indexedColumns.Nodup := by
        rw [givenNames_eq, List.nodup_append', Schema.nodup_names_iff "uid" uniqueTelling,
          Schema.nodup_names_iff "idx" indexTelling, and_iff_left apart]
    _ ↔ m.DeclaresOnce := by
        rw [Model.nodup_columnsOf_iff built (List.subset_append_left _ _), Model.nodup_indexedColumns_iff built]
        exact ⟨fun ⟨unique, indexes, fields⟩ => ⟨unique, indexes, fields⟩,
          fun ⟨unique, indexes, fields⟩ => ⟨unique, indexes, fields⟩⟩

/-- lockers in rows, whose unique columns are an index as well -/
def lockers : Draft where
  name := "Locker"
  fields := [(Field.new "id" .bigInt).asKey, Field.new "row" (.char 5), (Field.new "number" .int).indexed]
  uniqueTogether := [["row", "number"]]
  indexes := [["row", "number"]]

theorem gives_distinct_names_lockers : ∃ m names, lockers.build = .ok m ∧
    Schema.TellsApart m.table m.namedColumns ∧ Schema.givenNames? (m.scriptText true) = some names ∧
    names.length = 3 ∧ names.Nodup := by
  have row : Schema.nameDigest "locker" ["row", "number"] = "5bcb80" := by decide +kernel
  have number : Schema.nameDigest "locker" ["number"] = "2b29e7" := by decide +kernel
  have telling : Schema.TellsApart "locker" [["row", "number"], ["number"], ["row", "number"]] := by
    simp [Schema.TellsApart, row, number]
  have named := gives_distinct_names_iff (d := lockers) rfl telling true
  exact ⟨_, _, rfl, telling, named.1 rfl, rfl, named.2.mpr ⟨by decide, by decide, by decide⟩⟩

/-- items whose size has an index of its own and is declared as one as well -/
def sizedItems : Draft where
  name := "Item"
  fields := [(Field.new "id" .bigInt).asKey, (Field.new "size" .int).indexed]
  indexes := [["size"]]

/-- such a draft builds, and its script makes two indexes of one name -/
theorem gives_one_name_twice_sizedItems : ∃ m, sizedItems.build = .ok m ∧ m.isAbstract = false ∧
    Schema.TellsApart m.table m.namedColumns ∧
    Schema.givenNames? (m.scriptText false) = some ["idx_item_size_8f2261", "idx_item_size_8f2261"] := by
  have telling : Schema.TellsApart "item" [["size"], ["size"]] := by simp [Schema.TellsApart]
  refine ⟨_, rfl, rfl, telling, ?_⟩
  rw [Model.givenNames_scriptText (d := sizedItems) rfl rfl, Model.givenNames_eq]
  have name : Schema.name "idx" "item" ["size"] = "idx_item_size_8f2261" := by decide +kernel
  exact congrArg some (congrArg₂ (fun one other => [one, other]) name name)

end Draft

end Tabula
