import Tabula.Instance.Basic
import Tabula.Proofs.Model.Inheritance
/-!
# Names of fields

A model finds its fields by column and by name.  Columns are told apart when a draft is built, so that looking one up
always leads back to its field.  Names are told apart only among the fields that a draft declares itself: two parents may
lend fields of one name, and then the name finds the last of them.  `Draft.lookups_invert` says that lookups by name lead
back to every field just if no name is inherited twice, which is so along a line of single parents.
-/

namespace Tabula

namespace Model

variable {m : Model} {name : String} {p : Nat}

/-! ## The last field of a name -/

/-- the last field of a name is at a position -/
def IsLast (m : Model) (name : String) (p : Nat) : Prop :=
  (∃ f, m.fields[p]? = some f ∧ f.name = name) ∧ ∀ q f, m.fields[q]? = some f → f.name = name → q ≤ p

theorem le_getLast_of_ascending {ps : List Nat} (ascending : ps.Pairwise (· < ·)) (last : ps.getLast? = some p) :
    ∀ q ∈ ps, q ≤ p := by
  obtain ⟨before, rfl⟩ := List.getLast?_eq_some_iff.mp last
  intro q hq
  rcases List.mem_append.mp hq with hq | hq
  · exact Nat.le_of_lt ((List.pairwise_append.mp ascending).2.2 q hq p (List.mem_singleton_self p))
  · exact Nat.le_of_eq (List.mem_singleton.mp hq)

theorem position_ok : m.position name = .ok p ↔ (positionsWhere m.fields (·.name == name)).getLast? = some p := by
  unfold position position?
  split
  · next found => rw [found, Except.ok.injEq, Option.some.injEq]
  · next none => simp [none, failure]

/-- a name stands for the last field that has it -/
theorem position_iff : m.position name = .ok p ↔ m.IsLast name p := by
  have mem : ∀ q, q ∈ positionsWhere m.fields (·.name == name) ↔ ∃ f, m.fields[q]? = some f ∧ f.name = name := by
    intro q
    simp only [mem_positionsWhere, beq_iff_eq]
  have ascending := pairwise_positionsWhere m.fields (·.name == name)
  rw [position_ok]
  constructor
  · intro last
    refine ⟨(mem p).mp (List.mem_of_getLast? last), fun q f hf named => ?_⟩
    exact le_getLast_of_ascending ascending last q ((mem q).mpr ⟨f, hf, named⟩)
  · rintro ⟨here, last⟩
    cases found : (positionsWhere m.fields (·.name == name)).getLast? with
    | none =>
      rw [List.getLast?_eq_none_iff] at found
      exact absurd ((mem p).mpr here) (found ▸ List.not_mem_nil)
    | some q =>
      obtain ⟨f, hf, named⟩ := (mem q).mp (List.mem_of_getLast? found)
      have behind : q ≤ p := last q f hf named
      have before : p ≤ q := le_getLast_of_ascending ascending found p ((mem p).mpr here)
      exact congrArg some (Nat.le_antisymm behind before)

theorem field_of_position (found : m.position name = .ok p) : m.field? name = m.fields[p]? := by
  rw [field?, position?, position_ok.mp found]
  rfl

/-! ## Lookups that lead back -/

/-- where keys are distinct, a member is found by its key -/
theorem find?_of_nodup_map {α : Type} {key : α → String} {l : List α} (distinct : (l.map key).Nodup) {a : α}
    (mem : a ∈ l) : l.find? (key · == key a) = some a := by
  cases found : l.find? (key · == key a) with
  | none =>
    have other := List.find?_eq_none.mp found a mem
    simp at other
  | some b =>
    have same : key b = key a := by simpa using List.find?_some found
    exact congrArg some (List.inj_on_of_nodup_map distinct (List.mem_of_find?_eq_some found) mem same)

/-- a column leads to its field -/
theorem fieldForColumn_of_mem (columns : (m.fields.map Field.column).Nodup) {f : Field} (hf : f ∈ m.fields) :
    m.fieldForColumn? f.column = some f :=
  find?_of_nodup_map columns hf

/-- every field is found under its name, and the value of an instance for it under that name and no other -/
structure Inverts (m : Model) : Prop where
  names : (m.fields.map Field.name).Nodup
  position : ∀ (p : Nat) f, m.fields[p]? = some f → m.position f.name = .ok p
  field : ∀ (p : Nat) f, m.fields[p]? = some f → m.field? f.name = some f
  value : ∀ i : Instance, i.model = m → ∀ (p : Nat) f, m.fields[p]? = some f → i.get f.name = .ok (i.valueAt p)
  alone : ∀ (p : Nat) f name, m.fields[p]? = some f → m.position name = .ok p → name = f.name

/-- distinct names are enough -/
theorem inverts_of_nodup (names : (m.fields.map Field.name).Nodup) : m.Inverts := by
  have position : ∀ (p : Nat) f, m.fields[p]? = some f → m.position f.name = .ok p := by
    intro p f hf
    refine position_iff.mpr ⟨⟨f, hf, rfl⟩, fun q g hg named => Nat.le_of_eq ?_⟩
    have inP : p < m.fields.length := (List.getElem?_eq_some_iff.mp hf).1
    have same : (m.fields.map Field.name)[q]? = (m.fields.map Field.name)[p]? := by
      rw [List.getElem?_map, List.getElem?_map, hg, hf, Option.map_some, Option.map_some, named]
    have inP' : p < (m.fields.map Field.name).length := by rwa [List.length_map]
    exact ((List.getElem?_inj inP' names).mp same.symm).symm
  refine {
    names := names
    position := position
    field := fun p f hf => (field_of_position (position p f hf)).trans hf
    value := ?_
    alone := ?_ }
  · rintro i rfl p f hf
    rw [Instance.get, position p f hf]
    rfl
  · intro p f name hf found
    obtain ⟨⟨g, hg, named⟩, _⟩ := position_iff.mp found
    obtain rfl : g = f := Option.some.inj (hg.symm.trans hf)
    exact named.symm

end Model

namespace Draft

open Model (Inverts)

variable {d : Draft} {m : Model}

/-! ## Names that are inherited twice -/

theorem names_of_checkFields (h : d.checkFields = .ok ()) : (d.fields.map Field.name).Nodup := by
  cases repeated : firstRepeated? [] (d.fields.map Field.name) with
  | none => exact (nodup_of_firstRepeated repeated).1
  | some name =>
    simp only [checkFields, repeated] at h
    obtain ⟨_, h, _⟩ := Outcome.bind_ok.mp h
    cases h

/-- what is kept has none of the names that the draft declares -/
theorem ne_of_mem_kept {f g : Field} (hf : f ∈ d.kept) (hg : g ∈ d.fields) : f.name ≠ g.name := by
  have replaced := List.all_eq_true.mp (List.mem_filter.mp hf).2 g hg
  have other : g.name ≠ f.name := by simpa using replaced
  exact other.symm

/-- the names of a built model are distinct just if those of the kept fields are -/
theorem nodup_names_iff (built : d.build = .ok m) :
    (m.fields.map Field.name).Nodup ↔ (d.kept.map Field.name).Nodup := by
  have checked := checked_of_build built
  rw [checked.fields, merged, List.map_append, List.nodup_append]
  constructor
  · exact And.left
  · intro kept
    refine ⟨kept, names_of_checkFields checked.besides.fields, ?_⟩
    intro name hk other ho same
    obtain ⟨f, hf, rfl⟩ := List.mem_map.mp hk
    obtain ⟨g, hg, rfl⟩ := List.mem_map.mp ho
    exact ne_of_mem_kept hf hg same

theorem inverts_iff (built : d.build = .ok m) : m.Inverts ↔ (d.kept.map Field.name).Nodup := by
  rw [← nodup_names_iff built]
  exact ⟨Inverts.names, Model.inverts_of_nodup⟩

/-- **Lookups invert the list of fields, unless a name is inherited twice.**  The column of a field always leads back to
the field.  A name leads to the last field that has it, so that a field that is not the last of its name is not reached.
All fields are found under their own names, and their values in instances under these and no others, just if the fields
that are kept from the parents have different names. -/
theorem lookups_invert (built : d.build = .ok m) :
    (∀ (p : Nat) f, m.fields[p]? = some f → m.fieldForColumn? f.column = some f) ∧
    (∀ name p, m.position name = .ok p ↔ m.IsLast name p) ∧
    (m.Inverts ↔ (d.kept.map Field.name).Nodup) := by
  have columns := (sound_of_build built).columns
  refine ⟨fun p f hf => ?_, fun name p => Model.position_iff, inverts_iff built⟩
  exact Model.fieldForColumn_of_mem columns (List.mem_of_getElem? hf)

/-- an abstract parent with a moment that is filled in on creation -/
def stamped : Draft where
  name := "Stamped"
  isAbstract := true
  fields := [Field.new "created" (.instant false true), Field.new "title" .text]

/-- notes, which replace the title of the parent -/
def stampedNotes (parent : Model) : Draft :=
  Draft.inherit parent { name := "Note", fields := [(Field.new "id" .auto).asKey, Field.new "title" (.char 200)] }

theorem lookups_invert_stampedNotes : ∃ parent m, stamped.build = .ok parent ∧
    (stampedNotes parent).build = .ok m ∧ m.Inverts ∧ m.position "title" = .ok 2 := by
  have made : ∃ parent m, stamped.build = .ok parent ∧ (stampedNotes parent).build = .ok m ∧
      ((stampedNotes parent).kept.map Field.name).Nodup ∧ m.position "title" = .ok 2 :=
    ⟨_, _, rfl, rfl, by decide, rfl⟩
  obtain ⟨parent, m, first, built, distinct, title⟩ := made
  exact ⟨parent, m, first, built, (lookups_invert built).2.2.mpr distinct, title⟩

/-- an abstract parent with a title -/
def titled : Draft where
  name := "Titled"
  isAbstract := true
  fields := [Field.new "title" .text]

/-- an abstract parent with a title in another column -/
def labelled : Draft where
  name := "Labelled"
  isAbstract := true
  fields := [(Field.new "title" .text).withColumn "label"]

/-- works, which have both titles -/
def labelledWorks (first second : Model) : Draft :=
  Draft.inherit second (Draft.inherit first { name := "Work", fields := [(Field.new "id" .bigInt).asKey] })

/-- the first title of a work is found under no name -/
theorem unreached_title_labelledWorks : ∃ first second m, titled.build = .ok first ∧ labelled.build = .ok second ∧
    (labelledWorks first second).build = .ok m ∧ m.fields.map Field.name = ["title", "title", "id"] ∧
    m.position "title" = .ok 1 ∧ (∀ name, m.position name ≠ .ok 0) ∧ ¬m.Inverts := by
  refine ⟨_, _, _, rfl, rfl, rfl, rfl, rfl, fun name found => ?_, fun inverts => ?_⟩
  · obtain ⟨⟨f, hf, rfl⟩, last⟩ := Model.position_iff.mp found
    cases hf
    exact absurd (last 1 _ rfl rfl) (Nat.not_succ_le_zero 0)
  · exact absurd inverts.names (by decide)

/-! ## Lines of single parents -/

/-- models that have no parent, or one along such a line -/
inductive Line : Model → Prop where
  | first {d : Draft} {m : Model} (alone : d.inherited = []) (built : d.build = .ok m) : Line m
  | next {d : Draft} {parent m : Model} (line : Line parent) (only : d.inherited = parent.fields)
    (built : d.build = .ok m) : Line m

/-- **Along a line of single parents lookups invert the list of fields.** -/
theorem Line.inverts (h : Line m) : m.Inverts := by
  induction h with
  | first alone built =>
    refine (inverts_iff built).mpr ?_
    simp [kept, alone]
  | @next d parent m line only built ih =>
    refine (inverts_iff built).mpr ?_
    have part : d.kept.Sublist d.inherited := List.filter_sublist
    rw [only] at part
    exact (part.map Field.name).nodup ih.names

end Draft

end Tabula
