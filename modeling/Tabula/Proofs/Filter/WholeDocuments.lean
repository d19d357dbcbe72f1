import Tabula.Proofs.Database.Table
import Tabula.Proofs.Filter.Keys
import Tabula.Proofs.Model.Catalog
/-!
# Filters on whole documents

The lookups of a document field and the tests at the end of a path share ten suffixes, from equality to the null checks.
A key without a path is one of the field: its argument is converted as the field stores it, where a test takes the value
itself for a document.  `Model.whole_documents`: the lookup is the test at the empty path, of the document that the
argument is read as.
-/

namespace Tabula

open Sql (Condition Operand Sense)

/-! ## Compilations that come to the same -/

namespace Sql

/-- two operands that are written alike and stand for the same, if the empty path leads nowhere -/
structure Operand.Same (e e' : Operand) : Prop where
  text : e.text = e'.text
  datum : ∀ {ρ δ : Type} (sense : Sense ρ δ), (∀ d, sense.path d [] = d) → ∀ all row,
    e.datum sense all row = e'.datum sense all row

/-- two conditions that are written alike and have one truth value on every row -/
structure Condition.Same (c c' : Condition Operand) : Prop where
  text : c.text Operand.text = c'.text Operand.text
  truth : ∀ {ρ δ : Type} (sense : Sense ρ δ), (∀ d, sense.path d [] = d) → ∀ all row,
    c.truth sense all row = c'.truth sense all row

theorem Operand.Same.refl (e : Operand) : e.Same e := ⟨rfl, fun _ _ _ _ => rfl⟩

/-- a column and the empty path in it -/
theorem Operand.same_column (name : String) : (column name).Same (path name []) where
  text := String.append_empty.symm
  datum _ nowhere _ _ := (nowhere _).symm

end Sql

/-- two outcomes: results that are related, or errors of one kind -/
inductive Outcome.Match {α : Type} (r : α → α → Prop) : Outcome α → Outcome α → Prop
  | ok {a b : α} (related : r a b) : Match r (.ok a) (.ok b)
  | error {e e' : Error} (kind : e.kind = e'.kind) : Match r (.error e) (.error e')

namespace Binding

/-- two compilations accept the same, bind the same and keep the same rows -/
def Same (x y : Binding (Condition Operand)) : Prop :=
  ∀ ps, Outcome.Match Condition.Same (x.runWith ps).1 (y.runWith ps).1 ∧ (x.runWith ps).2 = (y.runWith ps).2

variable {α : Type} {o o' : Outcome α} {x y : α → Binding (Condition Operand)}

/-- what is made of two outcomes that are equal, or refusals of one kind -/
theorem same_lift (outcomes : Outcome.Match Eq o o') (each : ∀ a, Same (x a) (y a)) :
    Same (lift o >>= x) (lift o' >>= y) := by
  intro ps
  cases outcomes with
  | @ok a b same =>
    obtain rfl : a = b := same
    rw [runWith_seq, runWith_seq, runWith_lift]
    exact each a ps
  | error kind =>
    rw [runWith_seq, runWith_seq, runWith_lift, runWith_lift]
    exact ⟨.error kind, rfl⟩

theorem same_trans_eq {x y z : Binding (Condition Operand)} (h : Same x y)
    (runs : ∀ ps, y.runWith ps = z.runWith ps) : Same x z := by
  intro ps
  rw [← runs ps]
  exact h ps

end Binding

/-! ## The condition of a lookup at a place -/

namespace Lookup

/-- the condition that a lookup of a place makes of an encoded argument -/
def bound (lookup : Lookup) (place : Operand) : Argument → Binding (Condition Operand)
  | .parameter p => do
    let n ← Binding.bind p
    return lookup.condition place (.parameter n) false
  | .flag b => return lookup.condition place place b

theorem condition_same {e e' a a' : Operand} (places : e.Same e') (arguments : a.Same a') (lookup : Lookup)
    (flag : Bool) : (lookup.condition e a flag).Same (lookup.condition e' a' flag) := by
  constructor
  · cases lookup <;> cases flag <;>
      simp [condition, Condition.orNull, Condition.missing, Condition.text, Condition.texts, Sql.Term.text, places.text,
        arguments.text]
  · intro ρ δ sense nowhere all row
    have place := places.datum sense nowhere all row
    have argument := arguments.datum sense nowhere all row
    cases lookup <;> cases flag <;>
      simp [condition, Condition.orNull, Condition.missing, Condition.truth, Condition.truths, Sql.Term.datum, place,
        argument]

theorem bound_same {e e' : Operand} (places : e.Same e') (lookup : Lookup) (argument : Argument) :
    Binding.Same (lookup.bound e argument) (lookup.bound e' argument) := by
  intro ps
  cases argument with
  | parameter p => exact ⟨.ok (condition_same places (.refl _) lookup false), rfl⟩
  | flag b => exact ⟨.ok (condition_same places places lookup b), rfl⟩

end Lookup

/-! ## Tests at the end of a path -/

namespace PathFilter

/-- an argument as the tests that share a suffix with a lookup take it: values are documents -/
def encode (f : PathFilter) : ArgumentForm → Value → Outcome Argument
  | .fieldList, .list items => .ok (.parameter (.list (items.map document)))
  | .fieldList, v => failure .params ("JSON lookup on '" ++ f.path.field ++ "' expects a list, got " ++ v.kind)
  | .truth, v => .ok (.flag v.isTruthy)
  | _, v => .ok (.parameter (document v))

end PathFilter

/-- the lookups whose suffixes are those of tests -/
def sharedLookups : List ((String × Lookup × ArgumentForm) × PathTest) :=
  [(("", .exact, .field), .exact), (("__not", .notExact, .field), .notExact), (("__in", .among, .fieldList), .among),
    (("__not_in", .notAmong, .fieldList), .notAmong), (("__isnull", .isNull, .truth), .isNull),
    (("__not_isnull", .notIsNull, .truth), .notIsNull), (("__gt", .greater, .field), .greater),
    (("__gte", .atLeast, .field), .atLeast), (("__lt", .less, .field), .less), (("__lte", .atMost, .field), .atMost)]

theorem PathTest.ending_injective {test test' : PathTest} (same : test.ending = test'.ending) : test = test' := by
  by_cases exact : test = .exact
  · by_contra other
    have bare : test'.ending = "" := by rw [← same, exact]; rfl
    exact ending_ne_empty (fun exact' => other (exact.trans exact'.symm)) bare
  · by_cases exact' : test' = .exact
    · have bare : test.ending = "" := by rw [same, exact']; rfl
      exact absurd bare (ending_ne_empty exact)
    · have cut := PathFilter.splitKey_ending "" exact
      rw [same, PathFilter.splitKey_ending "" exact'] at cut
      exact (congrArg Prod.snd cut).symm

/-- a lookup of a document field and the test with its suffix -/
theorem mem_sharedLookups {f : Field} (json : f.kind = .json) {l : String × Lookup × ArgumentForm} (hl : l ∈ f.lookups)
    {test : PathTest} (shared : test.ending = l.1) : (l, test) ∈ sharedLookups := by
  have all : ∀ l ∈ commonLookups ++ orderedLookups, ∃ e ∈ sharedLookups, e.1 = l ∧ e.2.ending = l.1 := by decide
  have own : l ∈ commonLookups ++ orderedLookups := by
    simpa [Field.lookups, json, FieldKind.isIndexable, FieldKind.isTextual] using hl
  obtain ⟨⟨l', test'⟩, mem, rfl, ending⟩ := all l own
  obtain rfl := PathTest.ending_injective (shared.trans ending.symm)
  exact mem

/-- a test at the end of a path is the lookup with its suffix, made of the document at the end -/
theorem PathFilter.runWith_compile {l : String × Lookup × ArgumentForm} {test : PathTest}
    (mem : (l, test) ∈ sharedLookups) (path : JsonPath) {v : Value} (there : l.2.2 = .field → v.isNull = false)
    (ps : List Value) :
    (compile ⟨path, test⟩ v).runWith ps =
      (Binding.lift (encode ⟨path, test⟩ l.2.2 v) >>= l.2.1.bound path.value).runWith ps := by
  simp only [sharedLookups, List.mem_cons, Prod.mk.injEq, List.not_mem_nil, or_false] at mem
  rcases mem with ⟨rfl, rfl⟩ | ⟨rfl, rfl⟩ | ⟨rfl, rfl⟩ | ⟨rfl, rfl⟩ | ⟨rfl, rfl⟩ | ⟨rfl, rfl⟩ | ⟨rfl, rfl⟩ |
    ⟨rfl, rfl⟩ | ⟨rfl, rfl⟩ | ⟨rfl, rfl⟩
  · rw [compile, there rfl]
    rfl
  · rw [compile, there rfl]
    rfl
  · cases v <;> rfl
  · cases v <;> rfl
  all_goals rfl

/-! ## Lookups of a document field -/

/-- the values in the argument of a lookup: itself, or the elements of a list -/
def ArgumentForm.valuesIn : ArgumentForm → Value → List Value
  | .field, v => [v]
  | .fieldList, .list items => items
  | _, _ => []

/-- the argument of a lookup with the documents in it that its values are read as -/
def ArgumentForm.read : ArgumentForm → Value → Outcome Value
  | .field, v => v.readJson.map .json
  | .fieldList, .list items => (items.mapM fun x : Value => x.readJson.map .json).map .list
  | _, v => .ok v

/-- whether a value is taken for a document as it is: not a text, which is read as one, nor bytes or a length of time,
which are refused -/
def Value.isPlain : Value → Bool
  | string _ | bytes _ | span _ => false
  | _ => true

namespace ArgumentForm

variable {f : Field} {form : ArgumentForm} {v : Value}

/-- whether an argument is brought into the same form by lookups and by tests -/
def isShared : ArgumentForm → Bool
  | field | fieldList | truth => true
  | text | pattern _ => false

/-- values that are documents already are bound as they are -/
theorem read_encode (filter : PathFilter) (plain : ∀ x ∈ form.valuesIn v, x.isPlain = true) :
    (form.read v >>= filter.encode form) = filter.encode form v := by
  have whole : ∀ x : Value, x.isPlain = true → x.readJson.map Value.json = .ok (PathFilter.document x) := by
    intro x plain
    cases x <;> first | rfl | cases plain
  cases form with
  | field =>
    rw [read, whole v (plain v (List.mem_singleton_self v))]
    rfl
  | fieldList =>
    cases v with
    | list items =>
      have each : items.mapM (fun x : Value => x.readJson.map Value.json) = .ok (items.map PathFilter.document) := by
        refine Outcome.mapM_ok.mpr (List.forall₂_map_right_iff.mpr (List.forall₂_same.mpr fun x mem => ?_))
        exact whole x (plain x mem)
      have again : (items.map PathFilter.document).map PathFilter.document = items.map PathFilter.document := by
        rw [List.map_map]
        rfl
      rw [read, each]
      change Except.ok (Argument.parameter (.list ((items.map PathFilter.document).map PathFilter.document))) = _
      rw [again]
      rfl
    | _ => rfl
  | _ => rfl

end ArgumentForm

namespace Field

variable {f : Field} {form : ArgumentForm} {v : Value}

theorem toStorage_json (json : f.kind = .json) (there : v.isNull = false) : f.toStorage v = v.readJson.map .json := by
  rw [toStorage, accept, if_neg (by simp [there])]
  simp only [json]
  cases v.readJson <;> rfl

/-- what a lookup binds for an argument is what a test binds for the documents that it is read as -/
theorem encode_match (json : f.kind = .json) (shared : form.isShared = true)
    (there : ∀ x ∈ form.valuesIn v, x.isNull = false) (filter : PathFilter) :
    Outcome.Match Eq (form.encode f v) (form.read v >>= filter.encode form) := by
  cases form with
  | field =>
    rw [ArgumentForm.encode, ArgumentForm.read, toStorage_json json (there v (List.mem_singleton_self v))]
    cases v.readJson with
    | ok j => exact .ok rfl
    | error e => exact .error rfl
  | fieldList =>
    cases v with
    | list items =>
      have each : items.mapM f.toStorage = items.mapM fun x : Value => x.readJson.map Value.json :=
        Outcome.mapM_congr fun x mem => toStorage_json json (there x mem)
      rw [ArgumentForm.encode, ArgumentForm.read, each]
      cases read : items.mapM fun x : Value => x.readJson.map Value.json with
      | error e => exact .error rfl
      | ok stored =>
        have documents : stored.map PathFilter.document = stored := by
          conv => rhs; rw [← List.map_id stored]
          refine List.map_congr_left fun d mem => ?_
          obtain ⟨x, _, own⟩ := Outcome.exists_of_mem_mapM read mem
          obtain ⟨j, _, rfl⟩ := Outcome.map_ok.mp own
          rfl
        exact .ok (congrArg (Argument.parameter ∘ Value.list) documents.symm)
    | _ => exact .error rfl
  | truth => exact .ok rfl
  | _ => cases shared

theorem condition_eq (f : Field) (l : String × Lookup × ArgumentForm) (v : Value) :
    f.condition l v = Binding.lift (l.2.2.encode f v) >>= l.2.1.bound (.column f.column) := rfl

/-- the condition of a lookup is that of the test with its suffix on the whole document, made of what the argument is
read as -/
theorem condition_same {l : String × Lookup × ArgumentForm} {test : PathTest} (json : f.kind = .json)
    (mem : (l, test) ∈ sharedLookups) (there : ∀ x ∈ l.2.2.valuesIn v, x.isNull = false) :
    let filter : PathFilter := ⟨⟨f.name, f.column, []⟩, test⟩
    Binding.Same (f.condition l v) (Binding.lift (l.2.2.read v) >>= filter.compile) ∧
    ((∀ x ∈ l.2.2.valuesIn v, x.isPlain = true) → Binding.Same (f.condition l v) (filter.compile v)) := by
  intro filter
  have shared : l.2.2.isShared = true := by
    have all : ∀ e ∈ sharedLookups, e.1.2.2.isShared = true := by decide
    exact all _ mem
  have encoded : Binding.Same (f.condition l v)
      (Binding.lift (l.2.2.read v >>= filter.encode l.2.2) >>= l.2.1.bound filter.path.value) :=
    Binding.same_lift (encode_match json shared there filter) fun argument =>
      Lookup.bound_same (Operand.same_column f.column) l.2.1 argument
  constructor
  · refine Binding.same_trans_eq encoded fun ps => ?_
    cases read : l.2.2.read v with
    | error e => rfl
    | ok w =>
      have stays : l.2.2 = .field → w.isNull = false := by
        intro form
        rw [form] at read
        obtain ⟨j, _, rfl⟩ := Outcome.map_ok.mp read
        rfl
      exact (PathFilter.runWith_compile mem filter.path stays ps).symm
  · intro plain
    refine Binding.same_trans_eq encoded fun ps => ?_
    rw [ArgumentForm.read_encode filter plain]
    refine (PathFilter.runWith_compile mem filter.path (fun form => there v ?_) ps).symm
    rw [form]
    exact List.mem_singleton_self v

end Field

/-! ## Keys without a path -/

open PathFilter (parse? Plain)

/-- **The lookups of a document field are the tests of the whole document.**  Take a document field that is found under
its name, a lookup whose entry is found under its key, and the test with the same suffix at the empty path.  The key is
read as this test, unless a dot or the end of the field's name tells otherwise.  The condition of the key for an
argument is the one of the test for the documents that the values in the argument are read as: both are refused, or both
bind the same, are written alike and keep the same rows.  Where all these values are taken as they are, it is the one of
the test for the argument itself. -/
theorem Model.whole_documents {m : Model} {f : Field} (found : m.field? f.name = some f) (json : f.kind = .json)
    {l : String × Lookup × ArgumentForm} (hl : l ∈ f.lookups)
    (own : m.filter? (f.name ++ l.1) = some (f.entry l)) {test : PathTest} (shared : test.ending = l.1) :
    let filter : PathFilter := ⟨⟨f.name, f.column, []⟩, test⟩
    ('.' ∉ f.name.toList → (test = .exact → Plain f.name) → parse? m (f.name ++ l.1) = .ok (some filter)) ∧
    ∀ v, (∀ x ∈ l.2.2.valuesIn v, x.isNull = false) →
      Binding.Same (m.condition (f.name ++ l.1) v) (Binding.lift (l.2.2.read v) >>= filter.compile) ∧
      ((∀ x ∈ l.2.2.valuesIn v, x.isPlain = true) →
        Binding.Same (m.condition (f.name ++ l.1) v) (filter.compile v)) := by
  intro filter
  have mem := mem_sharedLookups json hl shared
  have dotted : filter.path.dotted = f.name := String.append_empty
  have key : filter.key = f.name ++ l.1 := by rw [PathFilter.key, dotted, shared]
  have bare : test = .exact → f.name ++ l.1 = f.name := by
    intro exact
    rw [← shared, exact]
    exact String.append_empty
  constructor
  · intro name plain
    rw [← key]
    have nowhere : ∀ s ∈ filter.path.segments, s ≠ "" ∧ '.' ∉ s.toList := fun _ mem => absurd mem List.not_mem_nil
    refine PathFilter.parse_iff.mpr ⟨PathFilter.splitKey_key fun exact => ?_, ⟨f, found, json, rfl, rfl⟩, name, nowhere⟩
    rw [key, bare exact]
    exact plain exact
  · intro v there
    rw [condition_of_entry found own v]
    exact Field.condition_same json mem there

namespace Model

/-- a number is compared as it is, a text as the document that it is read as -/
theorem whole_documents_taggedNotes : ∃ m, taggedNotes.build = .ok m ∧
    let filter : PathFilter := ⟨⟨"data", "data", []⟩, .notAmong⟩
    parse? m "data__not_in" = .ok (some filter) ∧
    Binding.Same (m.condition "data__not_in" (.list [.int 3])) (filter.compile (.list [.int 3])) ∧
    Binding.Same (m.condition "data__not_in" (.list [.int 3, .string "[]"]))
      (filter.compile (.list [.json (.ofInt64 3), .json (.arr [])])) := by
  have made : ∃ m, taggedNotes.build = .ok m ∧ m.field? "data" = some (Field.new "data" .json) ∧
      m.filter? ("data" ++ "__not_in") = some ⟨"data", "data", .notAmong, .fieldList⟩ := ⟨_, rfl, rfl, rfl⟩
  obtain ⟨m, built, found, own⟩ := made
  have shared : PathTest.notAmong.ending = "__not_in" := rfl
  have agree := whole_documents (f := Field.new "data" .json) found rfl (l := ("__not_in", .notAmong, .fieldList))
    (by decide) own shared
  refine ⟨m, built, agree.1 (by decide) nofun, (agree.2 (.list [.int 3]) ?_).2 ?_, ?_⟩
  · simp [ArgumentForm.valuesIn, Value.isNull]
  · simp [ArgumentForm.valuesIn, Value.isPlain]
  · exact (agree.2 (.list [.int 3, .string "[]"]) (by simp [ArgumentForm.valuesIn, Value.isNull])).1

/-- notes with a document whose name ends like a key -/
def oddNotes : Draft where
  name := "Note"
  fields := [(Field.new "id" .bigInt).asKey, Field.new "data__gt" .json]

/-- a text that is no document is refused for the field and taken at the empty path, and the key of a field whose name
ends in a suffix is not read as a test of the field -/
theorem differing_documents :
    (∃ m e c, taggedNotes.build = .ok m ∧ (m.condition "data" (.string "book")).runWith [] = (.error e, []) ∧
      parse? m "data" = .ok (some ⟨⟨"data", "data", []⟩, .exact⟩) ∧
      (PathFilter.compile ⟨⟨"data", "data", []⟩, .exact⟩ (.string "book")).runWith [] =
        (.ok c, [.json (.str "book")])) ∧
    ∃ m, oddNotes.build = .ok m ∧ m.filter? "data__gt" = some ⟨"data__gt", "data__gt", .exact, .field⟩ ∧
      parse? m "data__gt" = .ok none :=
  ⟨⟨_, _, _, rfl, rfl, rfl, rfl⟩, _, rfl, rfl, rfl⟩

end Model

end Tabula
