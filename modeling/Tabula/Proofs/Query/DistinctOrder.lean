import Tabula.Proofs.Filter.Keys
import Tabula.Proofs.Query.BulkWrite
/-!
# Sorting rows without duplicates

A database that drops duplicate rows sorts by nothing but what it shows of them.  A selection shows the columns of its
model, whatever it sorts by.  `Draft.sorts_by_shown_iff`: what it sorts by is among them, just if each of its sort keys
is a field or the key of the model; a value inside a document is not shown.
-/

namespace Tabula

open Sql (Operand Select SortKey identifier)

namespace Sql

/-! ## The rule -/

/-- what a database asks of a selection without duplicates: whatever it sorts by, it shows -/
def Select.SortsByShown (q : Select) : Prop :=
  q.distinct = true → ∀ k ∈ q.order.getD [], k.operand.text ∈ q.columns.map identifier

/-- a quoted name ends in its quote -/
theorem identifier_ends (name : String) : ∃ front, (identifier name).toList = front ++ ['"'] := by
  rw [identifier, enclosed, String.toList_ofList, ← List.cons_append]
  exact ⟨_, rfl⟩

/-- a step of a path ends in a digit, or in the quote of a literal -/
theorem segmentText_ends (segment : String) : ∃ front c, (segmentText segment).toList = front ++ [c] ∧ c ≠ '"' := by
  unfold segmentText
  split
  · next index =>
    obtain ⟨some, digits⟩ := (Bool.and_eq_true _ _).mp index
    rcases List.eq_nil_or_concat' segment.toList with none | ⟨front, c, whole⟩
    · rw [String.toList_eq_nil_iff.mp none] at some
      cases some
    · refine ⟨front, c, whole, ?_⟩
      rintro rfl
      rw [whole, List.all_append, Bool.and_eq_true] at digits
      exact absurd digits.2 (by decide)
  · rw [literal, enclosed, String.toList_ofList, ← List.cons_append]
    exact ⟨_, _, rfl, by decide⟩

/-- the value at a place inside a document does not read as a column -/
theorem path_text_ne_identifier {segments : List String} (inside : segments ≠ []) (column name : String) :
    (Operand.path column segments).text ≠ identifier name := by
  intro same
  obtain ⟨steps, last, rfl⟩ : ∃ steps last, segments = steps ++ [last] :=
    ⟨_, _, (List.dropLast_concat_getLast inside).symm⟩
  obtain ⟨front, c, step, other⟩ := segmentText_ends last
  obtain ⟨quoted, quote⟩ := identifier_ends name
  have path : (Operand.path column (steps ++ [last])).text =
      identifier column ++ stepsText steps ++ "->" ++ segmentText last := by
    apply String.toList_injective
    simp [Operand.text, stepsText, String.toList_join]
  have ends := congrArg String.toList (path.symm.trans same)
  rw [String.toList_append, step, quote, ← List.append_assoc] at ends
  exact other (List.singleton_inj.mp (List.append_inj' ends rfl).2)

end Sql

namespace Model

variable {d : Draft} {m : Model} {s : Selection} {key : String} {ops : List Operand} {order : List SortKey}
  {c : Compiled}

/-! ## What a selection sorts by -/

theorem field?_eq_none_iff : m.field? key = none ↔ key ∉ m.fields.map Field.name := by
  constructor
  · intro none named
    obtain ⟨f, hf, rfl⟩ := List.mem_map.mp named
    obtain ⟨i, there⟩ := List.getElem?_of_mem hf
    have found : i ∈ positionsWhere m.fields (·.name == f.name) := mem_positionsWhere.mpr ⟨f, there, beq_self_eq_true _⟩
    have last := List.getLast?_eq_some_getLast (List.ne_nil_of_mem found)
    obtain ⟨g, hg, -⟩ := mem_positionsWhere.mp (List.mem_of_getLast? last)
    rw [field?, position?, last, Option.bind_some, hg] at none
    cases none
  · intro unnamed
    cases named : m.field? key with
    | none => rfl
    | some f => exact absurd (name_of_field named ▸ List.mem_map_of_mem (mem_of_field named)) unnamed

/-- the ways to name what rows are sorted by: as the key, as a field, and as a place inside a document -/
inductive SortsBy (m : Model) : String → List Operand → Prop where
  | key : m.SortsBy "pk" (m.key.map fun i => .column (m.column i))
  | field {name : String} {f : Field} (other : name ≠ "pk") (named : m.field? name = some f) :
    m.SortsBy name [.column f.column]
  | path {p : JsonPath} (other : p.dotted ≠ "pk") (unnamed : m.field? p.dotted = none) (stands : p.IsIn m) :
    m.SortsBy p.dotted [p.value]

theorem sortOperands_iff : m.sortOperands key = .ok ops ↔ m.SortsBy key ops := by
  constructor
  · intro h
    unfold sortOperands at h
    split at h
    · next same =>
      cases h
      rw [same]
      exact .key
    · next other =>
      split at h
      · next f named =>
        cases h
        exact .field other named
      · next unnamed =>
        obtain ⟨found, resolves, h⟩ := Outcome.bind_ok.mp h
        cases found with
        | none => cases h
        | some p =>
          obtain rfl := Outcome.pure_ok.mp h
          obtain ⟨rfl, stands⟩ := JsonPath.resolve_iff.mp resolves
          exact .path other unnamed stands
  · intro h
    cases h with
    | key => rfl
    | field other named => rw [sortOperands, if_neg other, named]
    | path other unnamed stands =>
      have resolves := JsonPath.resolve_iff.mpr ⟨rfl, stands⟩
      rw [sortOperands, if_neg other, unnamed]
      exact Outcome.bind_ok.mpr ⟨_, resolves, rfl⟩

/-- a selection sorts by what its sort keys name -/
theorem forall_sortKeys_iff (sorts : m.sortKeys s.ordering = .ok order) {P : Operand → Prop} :
    (∀ k ∈ order, P k.operand) ↔ ∀ spec ∈ s.ordering, ∀ ops, m.SortsBy spec.key ops → ∀ op ∈ ops, P op := by
  obtain ⟨lists, each, rfl⟩ := Outcome.map_ok.mp sorts
  constructor
  · intro all spec hs ops names op hop
    obtain ⟨keys, hk, made⟩ := Outcome.exists_result_of_mem each hs
    rw [sortOperands_iff.mpr names] at made
    cases made
    exact all _ (List.mem_flatten.mpr ⟨_, hk, List.mem_map_of_mem hop⟩)
  · intro all k hk
    obtain ⟨keys, hkeys, hk⟩ := List.mem_flatten.mp hk
    obtain ⟨spec, hs, made⟩ := Outcome.exists_of_mem_mapM each hkeys
    obtain ⟨ops, names, rfl⟩ := Outcome.map_ok.mp made
    obtain ⟨op, hop, rfl⟩ := List.mem_map.mp hk
    exact all spec hs ops (sortOperands_iff.mp names) op hop

/-- a place that is named otherwise than its field is inside the document -/
theorem segments_ne_nil {p : JsonPath} (unnamed : m.field? p.dotted = none) (stands : p.IsIn m) :
    p.segments ≠ [] := by
  intro none
  obtain ⟨f, named, -⟩ := stands.field
  have bare : p.dotted = p.field := by
    rw [JsonPath.dotted, none]
    exact String.append_empty
  rw [bare, named] at unnamed
  cases unnamed

/-- columns are shown, values inside documents are not -/
theorem SortsBy.shown_iff (sound : m.Sound) (names : m.SortsBy key ops) :
    (∀ op ∈ ops, op.text ∈ m.columns.map identifier) ↔ key = "pk" ∨ key ∈ m.fields.map Field.name := by
  have shown {f : Field} (hf : f ∈ m.fields) : (Operand.column f.column).text ∈ m.columns.map identifier :=
    List.mem_map_of_mem (List.mem_map_of_mem hf)
  cases names with
  | key =>
    refine iff_of_true (fun op hop => ?_) (.inl rfl)
    obtain ⟨i, hi, rfl⟩ := List.mem_map.mp hop
    have below := sound.key_lt i hi
    have column : m.column i = (m.fields[i]).column := by
      rw [Model.column, List.getElem?_eq_getElem below, Option.map_some, Option.getD_some]
    rw [column]
    exact shown (List.getElem_mem below)
  | field other named =>
    have hf := mem_of_field named
    refine iff_of_true ?_ (.inr ?_)
    · rw [List.forall_mem_singleton]
      exact shown hf
    · rw [← name_of_field named]
      exact List.mem_map_of_mem hf
  | @path p other unnamed stands =>
    refine iff_of_false (fun all => ?_) (not_or.mpr ⟨other, field?_eq_none_iff.mp unnamed⟩)
    obtain ⟨column, -, same⟩ := List.mem_map.mp (all p.value List.mem_cons_self)
    exact Sql.path_text_ne_identifier (segments_ne_nil unnamed stands) p.column column same.symm

end Model

namespace Draft

variable {d : Draft} {m : Model} {s : Selection} {c : Compiled}

/-- **A selection without duplicates sorts by what it shows, just if it sorts by fields.**  For every model that a draft
builds and every selection that compiles, with whatever filters, sort keys and window: it shows the columns of the
model.  If it drops duplicates, then each expression that it sorts by is one of those that it shows, exactly when each
of its sort keys is the name of a field or stands for the key. -/
theorem sorts_by_shown_iff (built : d.build = .ok m) (fetches : m.select s = .ok c) :
    ∃ q, c.statement = .select q ∧ q.distinct = s.distinct ∧ q.columns = m.columns ∧
      (q.SortsByShown ↔ (s.distinct = true → ∀ spec ∈ s.ordering,
        spec.key = "pk" ∨ spec.key ∈ m.fields.map Field.name)) := by
  obtain ⟨rows, order, -, sorts, same⟩ := Model.select_iff.mp fetches
  refine ⟨m.selected s rows order, congrArg Compiled.statement same, rfl, rfl, ?_⟩
  have sound := Draft.sound_of_build built
  have keys : (m.selected s rows order).order.getD [] = order := by
    unfold Model.selected
    cases unsorted : s.ordering with
    | nil =>
      rw [unsorted] at sorts
      cases sorts
      rfl
    | cons spec specs => rfl
  have each := Model.forall_sortKeys_iff sorts (P := fun op => op.text ∈ m.columns.map identifier)
  rw [Sql.Select.SortsByShown, keys]
  refine imp_congr_right fun _ => each.trans (forall₂_congr fun spec hs => ?_)
  -- a selection that compiles has something to sort by for each of its keys
  obtain ⟨_, made, -⟩ := Outcome.map_ok.mp sorts
  obtain ⟨_, -, made⟩ := Outcome.exists_result_of_mem made hs
  obtain ⟨ops, names, -⟩ := Outcome.map_ok.mp made
  have names := Model.sortOperands_iff.mp names
  rw [← names.shown_iff sound]
  constructor
  · intro all
    exact all ops names
  · intro shown others same
    obtain rfl : ops = others :=
      Except.ok.inj ((Model.sortOperands_iff.mpr names).symm.trans (Model.sortOperands_iff.mpr same))
    exact shown

/-- seats with a composite key and a document -/
def describedSeats : Draft where
  name := "Seat"
  fields := [Field.new "row" .int, Field.new "number" .int, Field.new "data" .json]
  key := ["row", "number"]

/-- seats without duplicates, the last ones first, then by their documents -/
def lastSeats : Selection where
  ordering := [⟨"pk", true⟩, ⟨"data", false⟩]
  distinct := true

theorem sorts_by_shown_lastSeats : ∃ m c q, describedSeats.build = .ok m ∧ m.select lastSeats = .ok c ∧
    c.statement = .select q ∧ q.distinct = true ∧ q.SortsByShown := by
  have made : ∃ m c, describedSeats.build = .ok m ∧ m.select lastSeats = .ok c ∧
      m.fields.map Field.name = ["row", "number", "data"] := ⟨_, _, rfl, rfl, rfl⟩
  obtain ⟨m, c, built, fetches, names⟩ := made
  obtain ⟨q, statement, distinct, -, shown⟩ := sorts_by_shown_iff built fetches
  refine ⟨m, c, q, built, fetches, statement, distinct, shown.mpr fun _ => ?_⟩
  rw [names]
  decide

/-- **Notes without duplicates are sorted by a value that is not shown**, if the sort key leads into their document. -/
theorem sorts_by_unshown_taggedNotes : ∃ m c q, Model.taggedNotes.build = .ok m ∧ m.isAbstract = false ∧
    m.select { ordering := [⟨"data.rank", false⟩], distinct := true } = .ok c ∧ c.statement = .select q ∧
    c.text = "SELECT DISTINCT \"id\", \"data\" FROM \"note\" ORDER BY \"data\"->'rank' ASC" ∧
    q.distinct = true ∧ ¬q.SortsByShown := by
  refine ⟨_, _, _, rfl, rfl, rfl, rfl, by decide +kernel, rfl, fun shown => ?_⟩
  have listed : "\"data\"->'rank'" ∈ ["\"id\"", "\"data\""] := shown rfl _ List.mem_cons_self
  exact absurd listed (by decide)

end Draft

end Tabula
