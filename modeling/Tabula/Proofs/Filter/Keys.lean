import Tabula.Filter.Path
import Tabula.Proofs.Model.Names
/-!
# Keys of document filters

A filter on a document has a key: the name of the field, a dot and a segment for each step of the path and, unless the
test is equality, two low lines and the suffix of the test.  `Model.document_keys`: a key is read as the filter that it
was written for, and whatever is read as a filter is the key of that filter.

Names and segments may hold low lines themselves.  No suffix begins with one and none holds two in a row, so that those
in front of a suffix are always the last two of the key; what this leaves open is whether the text behind the last two
low lines of a key without a suffix happens to be one.
-/

namespace Tabula

/-! ## The last two low lines -/

/-- a text is cut in its rest if this can be cut, else at its front -/
theorem splitSuffix_cons (c : Char) (rest : List Char) :
    splitSuffix (c :: rest) = ((splitSuffix rest).map fun cut => (c :: cut.1, cut.2)).or
      (if ['_', '_'].isPrefixOf (c :: rest) then some ([], rest.tail) else none) := by
  rw [splitSuffix.eq_def]
  simp only
  cases splitSuffix rest with
  | some cut => rfl
  | none =>
    simp only [Option.map_none, Option.none_or]
    split
    · simp
    · next other =>
      rw [if_neg]
      intro pre
      obtain ⟨suffix, same⟩ := List.isPrefixOf_iff_prefix.mp pre
      injection same with first behind
      exact other suffix first.symm behind.symm

theorem splitSuffix_eq_none {cs : List Char} : splitSuffix cs = none ↔ ¬['_', '_'] <:+: cs := by
  induction cs with
  | nil => simp [splitSuffix]
  | cons c rest ih =>
    rw [splitSuffix_cons, List.infix_cons_iff, not_or, ← ih, ← List.isPrefixOf_iff_prefix]
    cases splitSuffix rest <;> simp

/-- the cut is at the last two low lines: no other two begin behind the first of them -/
theorem splitSuffix_eq_some {cs head tail : List Char} :
    splitSuffix cs = some (head, tail) ↔ cs = head ++ '_' :: '_' :: tail ∧ ¬['_', '_'] <:+: '_' :: tail := by
  constructor
  · intro cut
    induction cs generalizing head with
    | nil => cases cut
    | cons c rest ih =>
      rw [splitSuffix_cons] at cut
      cases found : splitSuffix rest with
      | some inner =>
        simp only [found, Option.map_some, Option.some_or, Option.some.injEq, Prod.mk.injEq] at cut
        obtain ⟨rfl, rfl⟩ := cut
        obtain ⟨rest_eq, last⟩ := ih found
        exact ⟨congrArg (c :: ·) rest_eq, last⟩
      | none =>
        simp only [found, Option.map_none, Option.none_or, Option.ite_none_right_eq_some, Option.some.injEq,
          Prod.mk.injEq] at cut
        obtain ⟨pre, rfl, rfl⟩ := cut
        obtain ⟨suffix, same⟩ := List.isPrefixOf_iff_prefix.mp pre
        obtain ⟨rfl, rfl⟩ := List.cons.inj same
        exact ⟨rfl, splitSuffix_eq_none.mp found⟩
  · rintro ⟨rfl, last⟩
    induction head with
    | nil => simp [splitSuffix_cons, splitSuffix_eq_none.mpr last]
    | cons c head ih => simp [splitSuffix_cons c, ih]

/-- a text is what follows the last two low lines of another -/
def FollowsLast (tail text : String) : Prop :=
  (∃ head, text = head ++ "__" ++ tail) ∧ ¬['_', '_'] <:+: '_' :: tail.toList

theorem of_splitSuffix_toList {text : String} {head tail : List Char}
    (cut : splitSuffix text.toList = some (head, tail)) :
    text = String.ofList head ++ "__" ++ String.ofList tail ∧ FollowsLast (String.ofList tail) text := by
  obtain ⟨chars, last⟩ := splitSuffix_eq_some.mp cut
  have whole : text = String.ofList head ++ "__" ++ String.ofList tail := by
    rw [← String.toList_inj, chars]
    simp
  exact ⟨whole, ⟨_, whole⟩, by rwa [String.toList_ofList]⟩

/-! ## Tests and their suffixes -/

namespace PathTest

/-- what the key of a test ends in: two low lines and a suffix, or nothing for equality -/
def ending (test : PathTest) : String :=
  match suffixes.find? (·.2 = test) with
  | some (suffix, _) => "__" ++ suffix
  | none => ""

theorem ending_of_suffix {suffix : String} {test : PathTest} (h : ofSuffix? suffix = some test) :
    test ≠ .exact ∧ test.ending = "__" ++ suffix := by
  have all : ∀ e ∈ suffixes, e.2 ≠ .exact ∧ e.2.ending = "__" ++ e.1 := by decide
  obtain ⟨e, found, rfl⟩ := Option.map_eq_some_iff.mp h
  obtain rfl : e.1 = suffix := by simpa using List.find?_some found
  exact all e (List.mem_of_find?_eq_some found)

theorem ending_ne_empty {test : PathTest} (h : test ≠ .exact) : test.ending ≠ "" := by
  revert h
  cases test <;> decide

theorem not_mem_ending (test : PathTest) : '.' ∉ test.ending.toList := by cases test <;> decide

/-- no two low lines begin in a suffix or directly in front of it -/
theorem exists_suffix {test : PathTest} (h : test ≠ .exact) :
    ∃ suffix, ofSuffix? suffix = some test ∧ ¬['_', '_'] <:+: '_' :: suffix.toList := by
  have all : ∀ e ∈ suffixes, ofSuffix? e.1 = some e.2 ∧ splitSuffix ('_' :: e.1.toList) = none := by decide
  have listed : ∃ e ∈ suffixes, e.2 = test := by
    revert h
    cases test <;> decide
  obtain ⟨e, mem, rfl⟩ := listed
  obtain ⟨known, last⟩ := all e mem
  exact ⟨e.1, known, splitSuffix_eq_none.mp last⟩

end PathTest

namespace PathFilter

/-- what follows the last two low lines of a text is no suffix of a test -/
def Plain (text : String) : Prop := ∀ tail, FollowsLast tail text → PathTest.ofSuffix? tail = none

theorem splitKey_of_plain {key : String} (plain : Plain key) : splitKey key = (key, .exact) := by
  unfold splitKey
  split
  · next head tail cut => simp [plain _ (of_splitSuffix_toList cut).2]
  · rfl

theorem splitKey_ending (dotted : String) {test : PathTest} (h : test ≠ .exact) :
    splitKey (dotted ++ test.ending) = (dotted, test) := by
  obtain ⟨suffix, known, last⟩ := PathTest.exists_suffix h
  have cut : splitSuffix (dotted ++ test.ending).toList = some (dotted.toList, suffix.toList) := by
    rw [(PathTest.ending_of_suffix known).2]
    exact splitSuffix_eq_some.mpr ⟨by simp, last⟩
  rw [splitKey, cut]
  simp only [String.ofList_toList, known]

/-- a key is the name that is cut off it and the ending of its test -/
theorem eq_of_splitKey {key dotted : String} {test : PathTest} (h : splitKey key = (dotted, test)) :
    key = dotted ++ test.ending := by
  unfold splitKey at h
  split at h
  · next head tail cut =>
    split at h
    · next known =>
      obtain ⟨rfl, rfl⟩ := Prod.mk.inj h
      rw [(PathTest.ending_of_suffix known).2, ← String.append_assoc]
      exact (of_splitSuffix_toList cut).1
    · obtain ⟨rfl, rfl⟩ := Prod.mk.inj h
      exact String.append_empty.symm
  · obtain ⟨rfl, rfl⟩ := Prod.mk.inj h
    exact String.append_empty.symm

end PathFilter

/-! ## Parts between separators -/

theorem intercalate_singleton_cons {α : Type} (x : α) (first : List α) (rest : List (List α)) :
    [x].intercalate (first :: rest) = first ++ rest.flatMap (x :: ·) := by
  induction rest generalizing first with
  | nil => simp
  | cons second rest ih =>
    rw [List.intercalate_cons_cons, ih, List.flatMap_cons]
    simp

/-- the last part of a text goes on in what is put behind the text, if there is no separator in it -/
theorem exists_last_part (x : Char) (xs : List Char) :
    ∃ front last, xs.splitOn x = front ++ [last] ∧
      ∀ more, x ∉ more → (xs ++ more).splitOn x = front ++ [last ++ more] := by
  induction xs with
  | nil => exact ⟨[], [], by simp, fun more apart => List.splitOn_eq_singleton apart⟩
  | cons c xs ih =>
    obtain ⟨front, last, now, later⟩ := ih
    simp only [List.cons_append, List.splitOn_cons_eq_if_modifyHead]
    split
    · exact ⟨[] :: front, last, by simp [now], fun more apart => by simp [later more apart]⟩
    · cases front with
      | nil => exact ⟨[], c :: last, by simp [now], fun more apart => by simp [later more apart]⟩
      | cons part front =>
        exact ⟨(c :: part) :: front, last, by simp [now], fun more apart => by simp [later more apart]⟩

theorem not_mem_of_mem_splitOn {x : Char} {xs part : List Char} (h : part ∈ xs.splitOn x) : x ∉ part := by
  induction xs generalizing part with
  | nil => simp_all
  | cons c xs ih =>
    rw [List.splitOn_cons_eq_if_modifyHead] at h
    split at h
    · rcases List.mem_cons.mp h with rfl | h
      · exact List.not_mem_nil
      · exact ih h
    · next other =>
      cases parts : xs.splitOn x with
      | nil => exact absurd parts (List.splitOn_ne_nil x xs)
      | cons first rest =>
        rw [parts, List.modifyHead_cons, List.mem_cons] at h
        rcases h with rfl | h
        · have different : x ≠ c := fun same => other (by simp [same])
          have apart : x ∉ first := ih (parts ▸ List.mem_cons_self)
          simp [different, apart]
        · exact ih (parts ▸ List.mem_cons_of_mem _ h)

/-! ## Dotted names -/

namespace JsonPath

/-- the place as a name: that of the field, and each segment behind a dot -/
def dotted (p : JsonPath) : String := p.field ++ String.join (p.segments.map ("." ++ ·))

theorem toList_dotted (p : JsonPath) :
    p.dotted.toList = ['.'].intercalate ((p.field :: p.segments).map String.toList) := by
  rw [List.map_cons, intercalate_singleton_cons, dotted, String.toList_append, String.toList_join, List.flatMap_map,
    List.flatMap_map]
  congr 2
  funext segment
  simp

/-- a name falls apart at its dots -/
theorem parts_dotted {p : JsonPath} (name : '.' ∉ p.field.toList) (segments : ∀ s ∈ p.segments, '.' ∉ s.toList) :
    (p.dotted.toList.splitOn '.').map String.ofList = p.field :: p.segments := by
  have apart : ∀ part ∈ (p.field :: p.segments).map String.toList, '.' ∉ part := by
    simpa using ⟨name, segments⟩
  rw [toList_dotted, List.splitOn_intercalate '.' apart (by simp), List.map_map]
  conv => rhs; rw [← List.map_id (p.field :: p.segments)]
  exact List.map_congr_left fun s _ => String.ofList_toList

/-- the parts of a text are put together again by dots, and hold none -/
theorem of_parts {dotted name : String} {segments : List String}
    (parts : (dotted.toList.splitOn '.').map String.ofList = name :: segments) (column : String) :
    JsonPath.dotted ⟨name, column, segments⟩ = dotted ∧ '.' ∉ name.toList ∧ ∀ s ∈ segments, '.' ∉ s.toList := by
  have chars : dotted.toList.splitOn '.' = (name :: segments).map String.toList := by
    rw [← parts, List.map_map]
    conv => lhs; rw [← List.map_id (dotted.toList.splitOn '.')]
    exact List.map_congr_left fun s _ => String.toList_ofList.symm
  have apart : ∀ part ∈ (name :: segments).map String.toList, '.' ∉ part := by
    intro part mem
    rw [← chars] at mem
    exact not_mem_of_mem_splitOn mem
  rw [List.map_cons, List.forall_mem_cons, List.forall_mem_map] at apart
  refine ⟨?_, apart⟩
  rw [← String.toList_inj, toList_dotted, ← chars, List.intercalate_splitOn]

/-- a place that a model has: in the document field that its name stands for, along segments that are not empty -/
structure IsIn (m : Model) (p : JsonPath) : Prop where
  field : ∃ f, m.field? p.field = some f ∧ f.kind = .json ∧ f.name = p.field ∧ f.column = p.column
  name : '.' ∉ p.field.toList
  segments : ∀ s ∈ p.segments, s ≠ "" ∧ '.' ∉ s.toList

variable {m : Model} {dotted name : String} {segments : List String} {f : Field}

/-- the refusal of a name with an empty segment -/
def emptySegment (dotted : String) : Error := ⟨.field, "empty segment in JSON path '" ++ dotted ++ "'"⟩

theorem resolve_of_parts (parts : (dotted.toList.splitOn '.').map String.ofList = name :: segments)
    (named : m.field? name = some f) (json : f.kind = .json) :
    resolve? m dotted =
      if "" ∈ segments then .error (emptySegment dotted) else .ok (some ⟨f.name, f.column, segments⟩) := by
  have holds : segments.any String.isEmpty = true ↔ "" ∈ segments := by simp
  simp only [resolve?, parts, named, json, ne_eq, not_true_eq_false, if_false, holds]
  rfl

/-- a name is read as a place just if it is the name of this place, and the model has it -/
theorem resolve_iff {p : JsonPath} : resolve? m dotted = .ok (some p) ↔ p.dotted = dotted ∧ p.IsIn m := by
  constructor
  · intro h
    match parts : (dotted.toList.splitOn '.').map String.ofList with
    | [] => simp [List.splitOn_ne_nil] at parts
    | name :: segments =>
      cases named : m.field? name with
      | none => simp [resolve?, parts, named] at h
      | some f =>
        by_cases json : f.kind = .json
        · rw [resolve_of_parts parts named json] at h
          split at h
          · cases h
          · next full =>
            obtain rfl := Option.some.inj (Except.ok.inj h)
            obtain rfl := Model.name_of_field named
            obtain ⟨whole, dots, apart⟩ := of_parts parts f.column
            refine ⟨whole, ⟨f, named, json, rfl, rfl⟩, dots, fun s mem => ⟨?_, apart s mem⟩⟩
            rintro rfl
            exact full mem
        · simp [resolve?, parts, named, json] at h
  · rintro ⟨rfl, ⟨f, named, json, own, column⟩, name, segments⟩
    rw [resolve_of_parts (parts_dotted name fun s mem => (segments s mem).2) named json, own, column,
      if_neg fun mem => (segments "" mem).1 rfl]

/-- a name with an empty segment still has one if an end without a dot is cut off it -/
theorem parts_of_cut {more : String}
    (parts : ((dotted ++ more).toList.splitOn '.').map String.ofList = name :: segments)
    (apart : '.' ∉ more.toList) (empty : "" ∈ segments) :
    ∃ others, (dotted.toList.splitOn '.').map String.ofList = name :: others ∧ "" ∈ others := by
  obtain ⟨front, last, now, later⟩ := exists_last_part '.' dotted.toList
  rw [String.toList_append, later _ apart, List.map_append] at parts
  rw [now, List.map_append]
  cases front with
  | nil =>
    obtain ⟨_, rfl⟩ := List.cons.inj parts
    cases empty
  | cons first front =>
    obtain ⟨rfl, rfl⟩ := List.cons.inj parts
    refine ⟨_, rfl, ?_⟩
    rcases List.mem_append.mp empty with mem | mem
    · exact List.mem_append_left _ mem
    · have bare : last ++ more.toList = [] := String.ofList_eq_empty_iff.mp (List.mem_singleton.mp mem).symm
      rw [(List.append_eq_nil_iff.mp bare).1]
      exact List.mem_append_right _ List.mem_cons_self

end JsonPath

/-! ## Keys -/

namespace PathFilter

variable {m : Model} {f : Field} {filter : PathFilter}

/-- the key of a filter -/
def key (f : PathFilter) : String := f.path.dotted ++ f.test.ending

theorem parse_eq (m : Model) (text : String) :
    parse? m text = (JsonPath.resolve? m (splitKey text).1).map (Option.map (⟨·, (splitKey text).2⟩)) := by
  unfold parse?
  rcases splitKey text with ⟨dotted, test⟩
  dsimp only
  cases JsonPath.resolve? m dotted <;> rfl

theorem parse_iff {text : String} :
    parse? m text = .ok (some filter) ↔
      splitKey text = (filter.path.dotted, filter.test) ∧ filter.path.IsIn m := by
  rw [parse_eq, Outcome.map_ok]
  constructor
  · rintro ⟨found, resolves, same⟩
    obtain ⟨path, rfl, rfl⟩ := Option.map_eq_some_iff.mp same
    obtain ⟨dotted, place⟩ := JsonPath.resolve_iff.mp resolves
    exact ⟨Prod.ext dotted.symm rfl, place⟩
  · rintro ⟨cut, place⟩
    rw [cut]
    exact ⟨some filter.path, JsonPath.resolve_iff.mpr ⟨rfl, place⟩, rfl⟩

theorem key_of_exact (exact : filter.test = .exact) : filter.key = filter.path.dotted := by
  rw [key, exact]
  exact String.append_empty

/-- what is cut off a key is the name of its place, but for an end of this that happens to be the ending of a test -/
theorem exists_more (filter : PathFilter) :
    ∃ more : String, '.' ∉ more.toList ∧ filter.path.dotted = (splitKey filter.key).1 ++ more := by
  by_cases exact : filter.test = .exact
  · refine ⟨(splitKey filter.key).2.ending, PathTest.not_mem_ending _, ?_⟩
    exact (key_of_exact exact).symm.trans (eq_of_splitKey rfl)
  · refine ⟨"", by simp, ?_⟩
    rw [key, splitKey_ending _ exact, String.append_empty]

theorem splitKey_key (plain : filter.test = .exact → Plain filter.key) :
    splitKey filter.key = (filter.path.dotted, filter.test) := by
  by_cases exact : filter.test = .exact
  · rw [splitKey_of_plain (plain exact), key_of_exact exact, exact]
  · exact splitKey_ending _ exact

/-- a key with an empty segment is refused, whatever it ends in -/
theorem parse_of_empty (named : m.field? filter.path.field = some f) (json : f.kind = .json)
    (name : '.' ∉ filter.path.field.toList) (segments : ∀ s ∈ filter.path.segments, '.' ∉ s.toList)
    (empty : "" ∈ filter.path.segments) :
    parse? m filter.key = .error (JsonPath.emptySegment (splitKey filter.key).1) := by
  obtain ⟨more, apart, whole⟩ := exists_more filter
  have parts := JsonPath.parts_dotted name segments
  rw [whole] at parts
  obtain ⟨others, parts, empty⟩ := JsonPath.parts_of_cut parts apart empty
  rw [parse_eq, JsonPath.resolve_of_parts parts named json, if_pos empty]
  rfl

end PathFilter

/-! ## Keys and filters -/

namespace Model

/-- a document field whose name has no dot is found under its name -/
structure HasDocument (m : Model) (f : Field) : Prop where
  found : m.field? f.name = some f
  json : f.kind = .json
  name : '.' ∉ f.name.toList

theorem hasDocument_of_nodup {m : Model} (names : (m.fields.map Field.name).Nodup) {f : Field} (mem : f ∈ m.fields)
    (json : f.kind = .json) (name : '.' ∉ f.name.toList) : m.HasDocument f := by
  obtain ⟨p, here⟩ := List.getElem?_of_mem mem
  exact ⟨(inverts_of_nodup names).field p f here, json, name⟩

open PathFilter (parse? splitKey Plain)
open JsonPath (resolve? emptySegment)

/-- **Keys of document filters are read back.**  For a document field that is found under its name and any segments
without dots: if no segment is empty, the key of a filter along them is read as this filter, for equality provided that
it does not happen to end in a suffix; if one is empty, the place and every key that is made from it are refused.  And a
key that is read as a filter is the key of that filter, which is in the model.  Where the names of the fields are
distinct, each document field is found under its name. -/
theorem document_keys (m : Model) :
    (∀ f, m.HasDocument f → ∀ segments : List String, (∀ s ∈ segments, '.' ∉ s.toList) → ∀ test : PathTest,
      let filter : PathFilter := ⟨⟨f.name, f.column, segments⟩, test⟩
      ("" ∉ segments → (test = .exact → Plain filter.key) → parse? m filter.key = .ok (some filter)) ∧
      ("" ∈ segments →
        resolve? m filter.path.dotted = .error (emptySegment filter.path.dotted) ∧
        parse? m filter.key = .error (emptySegment (splitKey filter.key).1))) ∧
    (∀ key filter, parse? m key = .ok (some filter) → filter.key = key ∧ filter.path.IsIn m) ∧
    ((m.fields.map Field.name).Nodup →
      ∀ f ∈ m.fields, f.kind = .json → '.' ∉ f.name.toList → m.HasDocument f) := by
  refine ⟨fun f doc segments apart test => ?_, fun key filter read => ?_, fun names f mem json name =>
    hasDocument_of_nodup names mem json name⟩
  · intro filter
    constructor
    · intro full plain
      refine PathFilter.parse_iff.mpr ⟨PathFilter.splitKey_key plain, ⟨f, doc.found, doc.json, rfl, rfl⟩, doc.name, ?_⟩
      exact fun s mem => ⟨fun none => full (none ▸ mem), apart s mem⟩
    · intro empty
      have parts := JsonPath.parts_dotted (p := filter.path) doc.name apart
      refine ⟨?_, PathFilter.parse_of_empty doc.found doc.json doc.name apart empty⟩
      rw [JsonPath.resolve_of_parts parts doc.found doc.json, if_pos empty]
  · obtain ⟨cut, place⟩ := PathFilter.parse_iff.mp read
    exact ⟨(PathFilter.eq_of_splitKey cut).symm, place⟩

/-- notes with a document -/
def taggedNotes : Draft where
  name := "Note"
  fields := [(Field.new "id" .bigInt).asKey, Field.new "data" .json]

/-- low lines inside of segments, at their ends and in front of what is no suffix belong to the segments -/
theorem document_keys_taggedNotes : ∃ m, taggedNotes.build = .ok m ∧
    parse? m "data.a__b" = .ok (some ⟨⟨"data", "data", ["a__b"]⟩, .exact⟩) ∧
    parse? m "data.a_.0___gt" = .ok (some ⟨⟨"data", "data", ["a_", "0_"]⟩, .greater⟩) ∧
    parse? m "data.a..b__not" = .error (emptySegment "data.a..b") := by
  have made : ∃ m, taggedNotes.build = .ok m ∧ m.HasDocument (Field.new "data" .json) :=
    ⟨_, rfl, rfl, rfl, by decide⟩
  obtain ⟨m, built, doc⟩ := made
  have read := (document_keys m).1 _ doc
  have plain : Plain "data.a__b" := by
    rintro tail ⟨⟨head, whole⟩, last⟩
    have cut : splitSuffix "data.a__b".toList = some (head.toList, tail.toList) := by
      rw [whole]
      exact splitSuffix_eq_some.mpr ⟨by simp, last⟩
    obtain rfl : tail = "b" := by
      rw [← String.toList_inj]
      exact congrArg Prod.snd (Option.some.inj (cut.symm.trans (by decide : _ = some ("data.a".toList, "b".toList))))
    decide
  exact ⟨m, built, (read ["a__b"] (by decide) .exact).1 (by decide) fun _ => plain,
    (read ["a_", "0_"] (by decide) .greater).1 (by decide) nofun,
    ((read ["a", "", "b"] (by decide) .notExact).2 (by decide)).2⟩

/-- an abstract parent with a document -/
def tagged : Draft where
  name := "Tagged"
  isAbstract := true
  fields := [Field.new "data" .json]

/-- an abstract parent with a text of the same name in another column -/
def relabelled : Draft where
  name := "Labelled"
  isAbstract := true
  fields := [(Field.new "data" .text).withColumn "label"]

/-- works, which have both -/
def taggedWorks (first second : Model) : Draft :=
  Draft.inherit second (Draft.inherit first { name := "Work", fields := [(Field.new "id" .bigInt).asKey] })

/-- the document of a work has a plain name, but no key is read as a filter on it -/
theorem unread_key_taggedWorks : ∃ first second m f, tagged.build = .ok first ∧ relabelled.build = .ok second ∧
    (taggedWorks first second).build = .ok m ∧ f ∈ m.fields ∧ f.kind = .json ∧ '.' ∉ f.name.toList ∧
    parse? m (PathFilter.key ⟨⟨f.name, f.column, ["tags"]⟩, .greater⟩) = .ok none :=
  ⟨_, _, _, Field.new "data" .json, rfl, rfl, rfl, .head _, rfl, by decide, rfl⟩

end Model

end Tabula
