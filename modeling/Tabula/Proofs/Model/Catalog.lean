import Tabula.Proofs.Model.Names
import Tabula.Proofs.Query.Conditions
/-!
# The catalog of filters

A filter key is a name of a field and the suffix of a lookup.  Names are any texts, so that one key may be made of the
names of two fields; the later entry then takes the place of the earlier one.  `Model.Unambiguous` says that no name is
another one with a suffix: then, and only then, every lookup of every field is found under its own key
(`Draft.filters_of_build`).

The suffixes themselves are no source of confusion: each begins with two low lines, and none is the end of another.
-/

namespace Tabula

open Sql (Condition Operand)

/-! ## Keys -/

theorem nodup_suffixes : ((commonLookups ++ orderedLookups ++ textLookups).map Prod.fst).Nodup := by decide

/-- a text that ends in two suffixes -/
theorem suffix_cases {a b : String} {s t : String × Lookup × ArgumentForm}
    (hs : s ∈ commonLookups ++ orderedLookups ++ textLookups) (ht : t ∈ commonLookups ++ orderedLookups ++ textLookups)
    (same : a ++ s.1 = b ++ t.1) : (a = b ∧ s = t) ∨ (s.1 = "" ∧ a = b ++ t.1) ∨ (t.1 = "" ∧ b = a ++ s.1) := by
  have ends : ∀ s ∈ commonLookups ++ orderedLookups ++ textLookups,
      ∀ t ∈ commonLookups ++ orderedLookups ++ textLookups, s.1 ≠ "" → s.1.toList <:+ t.1.toList → s = t := by
    decide
  have chars := congrArg String.toList same
  rw [String.toList_append, String.toList_append] at chars
  rcases List.append_eq_append_iff.mp chars with ⟨u, _, longer⟩ | ⟨u, _, longer⟩
  · by_cases empty : t.1 = ""
    · exact .inr (.inr ⟨empty, by rw [same, empty, String.append_empty]⟩)
    · obtain rfl : t = s := ends t ht s hs empty ⟨u, longer.symm⟩
      exact .inl ⟨(String.append_left_inj t.1).mp same, rfl⟩
  · by_cases empty : s.1 = ""
    · exact .inr (.inl ⟨empty, by rw [← same, empty, String.append_empty]⟩)
    · obtain rfl : s = t := ends s hs t ht empty ⟨u, longer.symm⟩
      exact .inl ⟨(String.append_left_inj s.1).mp same, rfl⟩

namespace Field

variable {f : Field} {l : String × Lookup × ArgumentForm}

/-- the catalog entry of a lookup -/
def entry (f : Field) (l : String × Lookup × ArgumentForm) : CatalogEntry := ⟨f.name, f.column, l.2.1, l.2.2⟩

/-- the condition that a lookup of a field makes of an argument -/
def condition (f : Field) (l : String × Lookup × ArgumentForm) (v : Value) : Binding (Condition Operand) := do
  match ← Binding.lift (l.2.2.encode f v) with
  | .parameter p =>
    let n ← Binding.bind p
    return l.2.1.condition (.column f.column) (.parameter n) false
  | .flag b => return l.2.1.condition (.column f.column) (.column f.column) b

/-- the filter keys of a field under a name -/
def keys (f : Field) (known : String) : List String := f.lookups.map fun l => known ++ l.1

theorem keys_catalog (f : Field) (known : String) : (f.catalog known).map Prod.fst = f.keys known := by
  rw [catalog, List.map_map]
  rfl

theorem lookups_sublist (f : Field) : f.lookups.Sublist (commonLookups ++ orderedLookups ++ textLookups) := by
  have ordered : (if f.kind.isIndexable then orderedLookups else []).Sublist orderedLookups := by split <;> simp
  have text : (if f.kind.isTextual then textLookups else []).Sublist textLookups := by split <;> simp
  exact ((List.Sublist.refl _).append ordered).append text

/-- every field is found under its bare name -/
theorem exact_mem_lookups (f : Field) : ("", .exact, .field) ∈ f.lookups :=
  List.mem_append_left _ (List.mem_append_left _ List.mem_cons_self)

theorem nodup_keys (f : Field) (known : String) : (f.keys known).Nodup := by
  have own : (f.lookups.map Prod.fst).Nodup := (f.lookups_sublist.map Prod.fst).nodup nodup_suffixes
  have keys : f.keys known = (f.lookups.map Prod.fst).map (known ++ ·) := by rw [keys, List.map_map]; rfl
  rw [keys]
  exact own.map fun _ _ same => (String.append_right_inj known).mp same

/-- a lookup of a field is known by its suffix -/
theorem eq_lookup {l' : String × Lookup × ArgumentForm} (hl : l ∈ f.lookups)
    (hl' : l' ∈ commonLookups ++ orderedLookups ++ textLookups) (same : l.1 = l'.1) : l = l' :=
  List.inj_on_of_nodup_map nodup_suffixes (Model.mem_lookups hl) hl' same

/-- a lookup either binds its argument or takes it as a flag -/
theorem condition_ok {v : Value} {ps qs : List Value} {c : Condition Operand}
    (h : (f.condition l v).runWith ps = (.ok c, qs)) :
    (∃ p, l.2.2.encode f v = .ok (.parameter p) ∧ qs = ps ++ [p] ∧
      c = l.2.1.condition (.column f.column) (.parameter (ps.length + 1)) false) ∨
    (∃ b, l.2.2.encode f v = .ok (.flag b) ∧ qs = ps ∧
      c = l.2.1.condition (.column f.column) (.column f.column) b) := by
  obtain ⟨argument, rs, ha, h⟩ := Binding.runWith_seq_ok h
  rw [Binding.runWith_lift, Prod.mk.injEq] at ha
  obtain ⟨encodes, rfl⟩ := ha
  cases argument with
  | parameter p =>
    simp only [Binding.runWith_seq, Binding.runWith_bind_value, Binding.runWith_pure, Prod.mk.injEq,
      Except.ok.injEq] at h
    exact .inl ⟨p, encodes, h.2.symm, h.1.symm⟩
  | flag b =>
    simp only [Binding.runWith_pure, Prod.mk.injEq, Except.ok.injEq] at h
    exact .inr ⟨b, encodes, h.2.symm, h.1.symm⟩

/-- no two lookups make the same comparison with the same form of argument -/
theorem eq_of_entry {g : Field} {l' : String × Lookup × ArgumentForm} (hl : l ∈ f.lookups) (hl' : l' ∈ g.lookups)
    (same : f.entry l = g.entry l') : f.column = g.column ∧ l = l' := by
  have apart : ((commonLookups ++ orderedLookups ++ textLookups).map Prod.snd).Nodup := by decide
  obtain ⟨_, column, lookup, form⟩ := CatalogEntry.mk.inj same
  refine ⟨column, List.inj_on_of_nodup_map apart (Model.mem_lookups hl) (Model.mem_lookups hl') ?_⟩
  exact Prod.ext lookup form

end Field

namespace Model

variable {m : Model} {a b e : String × Field} {l : String × Lookup × ArgumentForm}

/-! ## Names that keys are made of -/

/-- the name `pk`, if the key is one field of another name -/
def keyName (m : Model) : List (String × Field) :=
  match m.keyFields with
  | [f] => if f.name != "pk" then [("pk", f)] else []
  | _ => []

/-- the names by which fields are filtered -/
def filterNames (m : Model) : List (String × Field) := m.fields.map (fun f => (f.name, f)) ++ m.keyName

/-- neither of two names is the other one with a suffix -/
def Apart (a b : String × Field) : Prop :=
  (∀ l ∈ a.2.lookups, b.1 ≠ a.1 ++ l.1) ∧ ∀ l ∈ b.2.lookups, a.1 ≠ b.1 ++ l.1

instance (a b : String × Field) : Decidable (Apart a b) := inferInstanceAs (Decidable (_ ∧ _))

/-- no filter key can be made in two ways -/
def Unambiguous (m : Model) : Prop := m.filterNames.Pairwise Apart

instance (m : Model) : Decidable m.Unambiguous := inferInstanceAs (Decidable (List.Pairwise Apart _))

theorem catalog_eq (m : Model) : m.catalog = m.filterNames.flatMap fun e => e.2.catalog e.1 := by
  rw [filterNames, List.flatMap_append, List.flatMap_map, catalog, keyName]
  match m.keyFields with
  | [] | _ :: _ :: _ => exact (List.append_nil _).symm
  | [f] =>
    cases other : f.name != "pk" with
    | false => simp [other]
    | true => simp [other]

theorem keys_catalog (m : Model) : m.catalog.map Prod.fst = m.filterNames.flatMap fun e => e.2.keys e.1 := by
  simp only [catalog_eq, List.map_flatMap, Field.keys_catalog]

theorem mem_catalog_of_lookup (he : e ∈ m.filterNames) (hl : l ∈ e.2.lookups) :
    (e.1 ++ l.1, e.2.entry l) ∈ m.catalog := by
  rw [catalog_eq]
  exact List.mem_flatMap.mpr ⟨e, he, List.mem_map.mpr ⟨l, hl, rfl⟩⟩

theorem mem_of_keyFields {f : Field} (h : f ∈ m.keyFields) : f ∈ m.fields := by
  obtain ⟨p, _, there⟩ := List.mem_filterMap.mp h
  exact List.mem_of_getElem? there

theorem mem_keyName (h : e ∈ m.keyName) : m.keyFields = [e.2] ∧ e.2.name ≠ "pk" ∧ e.1 = "pk" := by
  unfold keyName at h
  split at h
  · next key =>
    split at h
    · next other =>
      obtain rfl := List.mem_singleton.mp h
      exact ⟨key, by simpa using other, rfl⟩
    · cases h
  · cases h

theorem field_of_mem_filterNames (h : e ∈ m.filterNames) : e.2 ∈ m.fields := by
  rcases List.mem_append.mp h with h | h
  · obtain ⟨f, hf, rfl⟩ := List.mem_map.mp h
    exact hf
  · exact mem_of_keyFields ((mem_keyName h).1 ▸ List.mem_singleton_self e.2)

/-- two fields share no key just if their names are apart -/
theorem disjoint_keys_iff : List.Disjoint (a.2.keys a.1) (b.2.keys b.1) ↔ Apart a b := by
  have bare : ∀ e : String × Field, e.1 ∈ e.2.keys e.1 := fun e =>
    List.mem_map.mpr ⟨_, e.2.exact_mem_lookups, String.append_empty⟩
  constructor
  · intro disjoint
    refine ⟨fun l hl same => ?_, fun l hl same => ?_⟩
    · exact disjoint (List.mem_map.mpr ⟨l, hl, same.symm⟩) (bare b)
    · exact disjoint (bare a) (List.mem_map.mpr ⟨l, hl, same.symm⟩)
  · rintro ⟨right, left⟩ key ha hb
    obtain ⟨s, hs, rfl⟩ := List.mem_map.mp ha
    obtain ⟨t, ht, same⟩ := List.mem_map.mp hb
    rcases suffix_cases (mem_lookups hs) (mem_lookups ht) same.symm with ⟨names, _⟩ | ⟨_, named⟩ | ⟨_, named⟩
    · exact right _ a.2.exact_mem_lookups (names.symm.trans String.append_empty.symm)
    · exact left t ht named
    · exact right s hs named

theorem nodup_keys_iff : (m.catalog.map Prod.fst).Nodup ↔ m.Unambiguous := by
  rw [keys_catalog, List.nodup_flatMap]
  have each : ∀ e ∈ m.filterNames, (e.2.keys e.1).Nodup := fun e _ => e.2.nodup_keys e.1
  have pairs : m.filterNames.Pairwise (Function.onFun List.Disjoint fun e => e.2.keys e.1) ↔ m.Unambiguous :=
    List.Pairwise.iff fun _ _ => disjoint_keys_iff
  rw [pairs, and_iff_right each]

/-! ## Entries found by their keys -/

/-- a key is found with the entry of a lookup that it is made of -/
theorem exists_lookup_of_filter {key : String} {entry : CatalogEntry} (h : m.filter? key = some entry) :
    ∃ e ∈ m.filterNames, ∃ l ∈ e.2.lookups, key = e.1 ++ l.1 ∧ entry = e.2.entry l := by
  obtain ⟨found, mem, rfl⟩ := Option.map_eq_some_iff.mp h
  have named : found.1 = key := by simpa using List.find?_some mem
  have listed := List.mem_reverse.mp (List.mem_of_find?_eq_some mem)
  rw [catalog_eq] at listed
  obtain ⟨e, he, listed⟩ := List.mem_flatMap.mp listed
  obtain ⟨l, hl, rfl⟩ := List.mem_map.mp listed
  exact ⟨e, he, l, hl, named.symm, rfl⟩

theorem filter_of_unambiguous (h : m.Unambiguous) (he : e ∈ m.filterNames) (hl : l ∈ e.2.lookups) :
    m.filter? (e.1 ++ l.1) = some (e.2.entry l) := by
  have distinct : (m.catalog.reverse.map Prod.fst).Nodup := by
    rw [List.map_reverse, List.nodup_reverse]
    exact nodup_keys_iff.mpr h
  have found := find?_of_nodup_map distinct (List.mem_reverse.mpr (mem_catalog_of_lookup he hl))
  rw [filter?, found]
  rfl

/-- the entries under `pk` come last and count whatever the fields are called -/
theorem filter_pk {k : Field} (key : m.keyFields = [k]) (other : k.name ≠ "pk") (hl : l ∈ k.lookups) :
    m.filter? ("pk" ++ l.1) = some (k.entry l) := by
  have catalog : m.catalog = (m.fields.flatMap fun f => f.catalog f.name) ++ k.catalog "pk" := by
    simp [catalog, key, other]
  have distinct : ((k.catalog "pk").reverse.map Prod.fst).Nodup := by
    rw [List.map_reverse, List.nodup_reverse, Field.keys_catalog]
    exact k.nodup_keys "pk"
  have listed : ("pk" ++ l.1, k.entry l) ∈ (k.catalog "pk").reverse :=
    List.mem_reverse.mpr (List.mem_map.mpr ⟨l, hl, rfl⟩)
  rw [filter?, catalog, List.reverse_append, List.find?_append, find?_of_nodup_map distinct listed]
  rfl

/-- names that lead back to their entries are not made of each other -/
theorem eq_of_named (found : ∀ e ∈ m.filterNames, ∀ l ∈ e.2.lookups, m.filter? (e.1 ++ l.1) = some (e.2.entry l))
    (ha : a ∈ m.filterNames) (hb : b ∈ m.filterNames) (hl : l ∈ a.2.lookups) (named : b.1 = a.1 ++ l.1) :
    a.1 = b.1 ∧ a.2.column = b.2.column := by
  have first := found a ha l hl
  have second := found b hb _ b.2.exact_mem_lookups
  rw [← named] at first
  rw [String.append_empty, first, Option.some.injEq] at second
  obtain ⟨column, rfl⟩ := Field.eq_of_entry hl b.2.exact_mem_lookups second
  exact ⟨by rw [named, String.append_empty], column⟩

/-- names and columns tell the ways apart by which fields are filtered -/
theorem nodup_labels (columns : (m.fields.map Field.column).Nodup) :
    (m.filterNames.map fun e => (e.1, e.2.column)).Nodup := by
  have own : (m.fields.map fun f => (f.name, f.column)).Nodup := by
    refine List.Nodup.of_map Prod.snd ?_
    rw [List.map_map]
    exact columns
  have key : (m.keyName.map fun e => (e.1, e.2.column)).Nodup := by
    unfold keyName
    split
    · split <;> simp
    · exact List.nodup_nil
  rw [filterNames, List.map_append, List.map_map]
  refine List.nodup_append.mpr ⟨own, key, ?_⟩
  intro label here other there same
  obtain ⟨f, hf, rfl⟩ := List.mem_map.mp here
  obtain ⟨e, he, rfl⟩ := List.mem_map.mp there
  obtain ⟨single, named, pk⟩ := mem_keyName he
  obtain ⟨name, column⟩ := Prod.mk.inj same
  have inside : e.2 ∈ m.fields := mem_of_keyFields (single ▸ List.mem_singleton_self e.2)
  obtain rfl : f = e.2 := List.inj_on_of_nodup_map columns hf inside column
  exact named (name.trans pk)

theorem unambiguous_iff_found (columns : (m.fields.map Field.column).Nodup) :
    m.Unambiguous ↔ ∀ e ∈ m.filterNames, ∀ l ∈ e.2.lookups, m.filter? (e.1 ++ l.1) = some (e.2.entry l) := by
  constructor
  · exact fun h e he l hl => filter_of_unambiguous h he hl
  · intro found
    have labels := List.pairwise_map.mp (nodup_labels columns)
    refine labels.imp_of_mem fun {a b} ha hb other => ?_
    refine ⟨fun l hl named => other ?_, fun l hl named => other ?_⟩
    · obtain ⟨name, column⟩ := eq_of_named found ha hb hl named
      exact Prod.ext name column
    · obtain ⟨name, column⟩ := eq_of_named found hb ha hl named
      exact Prod.ext name.symm column.symm

/-- no entry is lost just if all keys are different -/
theorem unambiguous_iff_count :
    m.Unambiguous ↔ m.filterCount = (m.filterNames.flatMap fun e => e.2.lookups).length := by
  have length : (m.catalog.map Prod.fst).length = (m.filterNames.flatMap fun e => e.2.lookups).length := by
    rw [keys_catalog, List.length_flatMap, List.length_flatMap]
    simp only [Field.keys, List.length_map]
  rw [← nodup_keys_iff, filterCount, ← length]
  exact ⟨fun distinct => by rw [Draft.eraseDups_of_nodup distinct], Draft.nodup_of_length_eraseDups⟩

theorem nodup_names_of_unambiguous (h : m.Unambiguous) : (m.fields.map Field.name).Nodup := by
  have own := List.pairwise_map.mp (List.pairwise_append.mp h).1
  refine List.pairwise_map.mpr (own.imp fun {f g} apart same => ?_)
  exact apart.1 _ f.exact_mem_lookups (same.symm.trans String.append_empty.symm)

/-- a key with the entry of a lookup stands for this lookup of the field -/
theorem condition_of_entry {f : Field} (field : m.field? f.name = some f) {key : String}
    (found : m.filter? key = some (f.entry l)) (v : Value) : m.condition key v = f.condition l v := by
  simp only [condition, found, Field.entry, field]
  rfl

/-- a condition tests the column of the field whose name its key is made of -/
theorem condition_of_unambiguous (h : m.Unambiguous) (he : e ∈ m.filterNames) (hl : l ∈ e.2.lookups) (v : Value) :
    m.condition (e.1 ++ l.1) v = e.2.condition l v := by
  have names := nodup_names_of_unambiguous h
  obtain ⟨p, there⟩ := List.getElem?_of_mem (field_of_mem_filterNames he)
  have field : m.field? e.2.name = some e.2 := (inverts_of_nodup names).field p e.2 there
  exact condition_of_entry field (filter_of_unambiguous h he hl) v

end Model

namespace Draft

variable {d : Draft} {m : Model}

/-- **Every lookup is found under its own key, unless keys of fields coincide.**  What is found under a key is always an
entry of a name that the key is made of, and `pk` always stands for the key field.  All entries of all fields are found
under their keys, and counted, just if no name is another one with a suffix; conditions then test the column of the
field that is named. -/
theorem filters_of_build (built : d.build = .ok m) :
    (∀ key entry, m.filter? key = some entry →
      ∃ e ∈ m.filterNames, ∃ l ∈ e.2.lookups, key = e.1 ++ l.1 ∧ entry = e.2.entry l) ∧
    (∀ k, m.keyFields = [k] → k.name ≠ "pk" → ∀ l ∈ k.lookups, m.filter? ("pk" ++ l.1) = some (k.entry l)) ∧
    (m.Unambiguous ↔ ∀ e ∈ m.filterNames, ∀ l ∈ e.2.lookups, m.filter? (e.1 ++ l.1) = some (e.2.entry l)) ∧
    (m.Unambiguous ↔ m.filterCount = (m.filterNames.flatMap fun e => e.2.lookups).length) ∧
    (m.Unambiguous → ∀ e ∈ m.filterNames, ∀ l ∈ e.2.lookups, ∀ v,
      m.condition (e.1 ++ l.1) v = e.2.condition l v) :=
  ⟨fun _ _ => Model.exists_lookup_of_filter, fun _ key other _ hl => Model.filter_pk key other hl,
    Model.unambiguous_iff_found (sound_of_build built).columns, Model.unambiguous_iff_count,
    fun h _ he _ hl v => Model.condition_of_unambiguous h he hl v⟩

/-- boxes, which have a size and fields that are named like other keys -/
def boxes (others : List String) : Draft where
  name := "Box"
  fields := [(Field.new "id" .bigInt).asKey, Field.new "size" .int] ++ others.map fun name => Field.new name .int

theorem filters_of_build_boxes : ∃ m, (boxes ["size_not"]).build = .ok m ∧ m.Unambiguous ∧ m.filterCount = 40 := by
  refine ⟨_, rfl, by decide, ?_⟩
  exact ((filters_of_build (d := boxes ["size_not"]) rfl).2.2.2.1.mp (by decide)).trans rfl

/-- a field takes the place of another key of the size, and `pk` is not the field of that name -/
theorem shadowed_filters_boxes : ∃ m, (boxes ["size__not", "pk"]).build = .ok m ∧
    m.fields.map Field.name = ["id", "size", "size__not", "pk"] ∧
    m.filter? ("size" ++ "__not") = some ⟨"size__not", "size__not", .exact, .field⟩ ∧
    m.filter? ("pk" ++ "") = some ⟨"id", "id", .exact, .field⟩ ∧
    m.filterCount < (m.filterNames.flatMap fun e => e.2.lookups).length :=
  ⟨_, rfl, rfl, rfl, rfl, by decide⟩

end Draft

end Tabula
