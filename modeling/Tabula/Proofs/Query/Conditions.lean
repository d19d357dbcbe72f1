import Tabula.Proofs.Outcome
import Tabula.Proofs.Query.Skeleton
import Tabula.Proofs.Sql.Placeholders
/-!
# What a condition binds

A pair of key and argument binds one value, in the form that its comparison asks for, or none if it only asks whether
something is missing.  `Model.condition_ok`: its condition mentions just the placeholder of that value.
-/

namespace Tabula

open Sql (Condition Operand)

/-! ## Null checks and encoded values -/

/-- whether a comparison only asks whether the field is missing -/
def Lookup.isNullCheck : Lookup → Bool
  | isNull | notIsNull => true
  | _ => false

/-- whether a test of an argument only asks whether the value is missing -/
def PathTest.isNullCheck (v : Value) : PathTest → Bool
  | isNull | notIsNull => true
  | exact | notExact => v.isNull
  | _ => false

namespace PathFilter

/-- the refusal of an argument that is no list -/
def notListed (f : PathFilter) (v : Value) : Outcome Value :=
  failure .params ("JSON lookup on '" ++ f.path.field ++ "' expects a list, got " ++ v.kind)

/-- the documents that an argument lists -/
def listedDocuments (f : PathFilter) : Value → Outcome Value
  | .list items => .ok (.list (items.map document))
  | v => f.notListed v

/-- the keys that an argument lists, as text; a text is one key -/
def listedKeys (f : PathFilter) : Value → Outcome Value
  | .list items => .ok (.list (items.map fun v => .string v.text))
  | .string s => .ok (.list [.string s])
  | v => f.notListed v

/-- what a test binds for an argument -/
def encoded (f : PathFilter) (v : Value) : Outcome Value :=
  match f.test with
  | .exact | .notExact | .greater | .atLeast | .less | .atMost | .holds | .heldBy => .ok (document v)
  | .among | .notAmong => f.listedDocuments v
  | .isNull | .notIsNull => .ok .null
  | .hasKey | .exactAnyCase => .ok (.string v.text)
  | .hasKeys | .hasAnyKey => f.listedKeys v
  | .startsWith | .startsWithAnyCase => .ok (.string (Wildcard.startsWith.around v.text))
  | .endsWith | .endsWithAnyCase => .ok (.string (Wildcard.endsWith.around v.text))
  | .containsAnyCase => .ok (.string (Wildcard.contains.around v.text))

end PathFilter

/-- what a comparison binds for an argument -/
def ArgumentForm.encoded (form : ArgumentForm) (f : Field) (v : Value) : Outcome Value :=
  (form.encode f v).map fun
    | .parameter p => p
    | .flag b => .bool b

namespace Model

/-- whether a pair of key and argument only asks whether something is missing -/
def isNullCheck (m : Model) (key : String) (v : Value) : Bool :=
  match m.filter? key with
  | some entry => entry.lookup.isNullCheck
  | none =>
    match PathFilter.parse? m key with
    | .ok (some f) => f.test.isNullCheck v
    | _ => false

/-- the value that a pair of key and argument binds, unless it is a null check -/
def encoded (m : Model) (key : String) (v : Value) : Outcome Value :=
  match m.filter? key with
  | some entry =>
    match m.field? entry.field with
    | some f => entry.form.encoded f v
    | none => .error (unknownFilter key)
  | none =>
    match PathFilter.parse? m key with
    | .ok (some f) => f.encoded v
    | .ok none => .error (unknownFilter key)
    | .error e => .error e

/-! ## The catalog -/

/-- of all lookups just the null checks take a truth value -/
theorem truth_iff_isNullCheck :
    ∀ l ∈ commonLookups ++ orderedLookups ++ textLookups, l.2.2 = .truth ↔ l.2.1.isNullCheck = true := by
  decide

theorem mem_lookups {f : Field} {l : String × Lookup × ArgumentForm} (h : l ∈ f.lookups) :
    l ∈ commonLookups ++ orderedLookups ++ textLookups := by
  unfold Field.lookups at h
  simp only [List.mem_append] at h ⊢
  rcases h with (h | h) | h
  · exact .inl (.inl h)
  · split at h
    · exact .inl (.inr h)
    · simp at h
  · split at h
    · exact .inr h
    · simp at h

theorem mem_catalog {m : Model} {e : String × CatalogEntry} (h : e ∈ m.catalog) :
    ∃ f ∈ m.fields, ∃ known : String, e ∈ f.catalog known := by
  have own : ∀ e ∈ m.fields.flatMap fun f => f.catalog f.name, ∃ f ∈ m.fields, ∃ known : String, e ∈ f.catalog known := by
    intro e he
    obtain ⟨f, mem, hf⟩ := List.mem_flatMap.mp he
    exact ⟨f, mem, f.name, hf⟩
  unfold catalog at h
  split at h
  · next f key =>
    split at h
    · rcases List.mem_append.mp h with h | h
      · exact own e h
      · have inKey : f ∈ m.keyFields := key ▸ List.mem_singleton_self f
        obtain ⟨p, _, hp⟩ := List.mem_filterMap.mp inKey
        exact ⟨f, List.mem_of_getElem? hp, "pk", h⟩
    · exact own e h
  · exact own e h

/-- the entry of a filter key is one of a field of the model -/
theorem exists_of_filter {m : Model} {key : String} {entry : CatalogEntry} (h : m.filter? key = some entry) :
    ∃ f ∈ m.fields, ∃ known : String, (key, entry) ∈ f.catalog known := by
  obtain ⟨e, he, rfl⟩ := Option.map_eq_some_iff.mp h
  obtain ⟨f, mem, known, hf⟩ := mem_catalog (List.mem_reverse.mp (List.mem_of_find?_eq_some he))
  have named : e.1 = key := by simpa using List.find?_some he
  exact ⟨f, mem, known, named ▸ hf⟩

/-- a filter of a model is made of one of the lookups -/
theorem lookup_of_filter {m : Model} {key : String} {entry : CatalogEntry} (h : m.filter? key = some entry) :
    ∃ suffix, (suffix, entry.lookup, entry.form) ∈ commonLookups ++ orderedLookups ++ textLookups := by
  obtain ⟨f, _, known, hf⟩ := exists_of_filter h
  obtain ⟨l, hl, same⟩ := List.mem_map.mp hf
  obtain ⟨rfl, rfl⟩ := Prod.mk.inj same
  exact ⟨l.1, mem_lookups hl⟩

/-- a filter of a model takes a truth value just if it is a null check -/
theorem form_of_filter {m : Model} {key : String} {entry : CatalogEntry} (h : m.filter? key = some entry) :
    entry.form = .truth ↔ entry.lookup.isNullCheck = true := by
  obtain ⟨suffix, mem⟩ := lookup_of_filter h
  exact truth_iff_isNullCheck _ mem

end Model

/-! ## One pair -/

/-- the condition of a pair, given what the pair binds and what has been bound before: a null check binds nothing, any
other condition binds one value and mentions its placeholder once -/
inductive Gives (encoded : Outcome Value) (ps : List Value) : Bool → Condition Operand → List Value → Prop where
  | check {c : Condition Operand} (full : c.isFull = true) (parameters : c.parameters = []) :
    Gives encoded ps true c ps
  | value {v : Value} {c : Condition Operand} (known : encoded = .ok v) (full : c.isFull = true)
    (parameters : c.parameters = [ps.length + 1]) : Gives encoded ps false c (ps ++ [v])

theorem Gives.isFull {encoded : Outcome Value} {ps qs : List Value} {check : Bool} {c : Condition Operand}
    (h : Gives encoded ps check c qs) : c.isFull = true := by
  cases h <;> assumption

namespace Lookup

variable (lookup : Lookup) (column : String)

theorem isFull_condition (argument : Operand) (flag : Bool) :
    (lookup.condition (.column column) argument flag).isFull = true := by
  cases lookup <;> cases flag <;> rfl

theorem parameters_condition_of_check (h : lookup.isNullCheck = true) (argument : Operand) (flag : Bool) :
    (lookup.condition (.column column) argument flag).parameters = [] := by
  cases lookup <;> cases flag <;> first | rfl | simp [isNullCheck] at h

theorem parameters_condition (h : lookup.isNullCheck = false) (n : Nat) (flag : Bool) :
    (lookup.condition (.column column) (.parameter n) flag).parameters = [n] := by
  cases lookup <;> first | rfl | simp [isNullCheck] at h

end Lookup

namespace PathFilter

variable {f : PathFilter} {op : Sql.Operator} {ps qs : List Value} {c : Condition Operand}

/-- one value bound, and a condition made of its number -/
theorem gives_of_bind {v : Value} {make : Nat → Condition Operand} (full : ∀ n, (make n).isFull = true)
    (parameters : ∀ n, (make n).parameters = [n])
    (h : (Binding.bind v >>= fun n => pure (make n)).runWith ps = (.ok c, qs)) : Gives (.ok v) ps false c qs := by
  simp only [Binding.runWith_seq, Binding.runWith_bind_value, Binding.runWith_pure, Prod.mk.injEq,
    Except.ok.injEq] at h
  obtain ⟨rfl, rfl⟩ := h
  exact .value rfl (full _) (parameters _)

theorem against_ok {v : Value} (h : (f.against op v).runWith ps = (.ok c, qs)) : Gives (.ok v) ps false c qs :=
  gives_of_bind (fun _ => rfl) (fun _ => rfl) h

theorem textAgainst_ok {s : String} (h : (f.textAgainst op s).runWith ps = (.ok c, qs)) :
    Gives (.ok (.string s)) ps false c qs :=
  gives_of_bind (fun _ => rfl) (fun _ => rfl) h

theorem capitalsAgainst_ok {s : String} (h : (f.capitalsAgainst op s).runWith ps = (.ok c, qs)) :
    Gives (.ok (.string s)) ps false c qs :=
  gives_of_bind (fun _ => rfl) (fun _ => rfl) h

/-- a condition stays what it gives when a missing value is let through -/
theorem gives_orNull {encoded : Outcome Value} (wrap : Condition Operand → Condition Operand)
    (full : ∀ d, (wrap d).isFull = d.isFull) (parameters : ∀ d, (wrap d).parameters = d.parameters)
    (h : Gives encoded ps false c qs) : Gives encoded ps false ((wrap c).orNull f.path.value) qs := by
  cases h with
  | value known hf hp =>
    refine .value known ?_ ?_
    · simp [Condition.orNull, Condition.isFull, Condition.allFull, full, hf]
    · simp [Condition.orNull, Condition.parameters, Condition.parametersAll, parameters, hp, JsonPath.value,
        Operand.parameters]

theorem membership_ok {v : Value} (h : (f.membership v).runWith ps = (.ok c, qs)) :
    Gives (f.listedDocuments v) ps false c qs := by
  cases v with
  | list items => exact gives_of_bind (fun _ => rfl) (fun _ => rfl) h
  | _ => simp [membership, expectedList] at h

theorem keysAgainst_ok {v : Value} (h : (f.keys v >>= fun ks => f.against op (.list ks)).runWith ps = (.ok c, qs)) :
    Gives (f.listedKeys v) ps false c qs := by
  cases v with
  | list items => exact against_ok h
  | string s => exact against_ok h
  | _ => simp [keys, expectedList, Binding.runWith_seq] at h

/-- the check whether the value at the path is missing -/
theorem gives_missing (encoded : Outcome Value) (ps : List Value) (flag : Bool) :
    Gives encoded ps true (.missing flag f.path.value) ps := by
  cases flag <;> exact .check rfl rfl

theorem compile_ok {v : Value} (h : (f.compile v).runWith ps = (.ok c, qs)) :
    Gives (f.encoded v) ps (f.test.isNullCheck v) c qs := by
  unfold compile at h
  unfold encoded
  cases ht : f.test <;> simp only [ht, PathTest.isNullCheck] at h ⊢
  case exact =>
    cases hv : v.isNull with
    | true =>
      simp only [hv, if_true, Binding.runWith_pure, Prod.mk.injEq, Except.ok.injEq] at h
      obtain ⟨rfl, rfl⟩ := h
      exact gives_missing _ _ true
    | false => exact against_ok (by simpa [hv] using h)
  case notExact =>
    cases hv : v.isNull with
    | true =>
      simp only [hv, if_true, Binding.runWith_pure, Prod.mk.injEq, Except.ok.injEq] at h
      obtain ⟨rfl, rfl⟩ := h
      exact gives_missing _ _ false
    | false =>
      simp only [hv, if_neg Bool.false_ne_true] at h
      obtain ⟨d, rs, hd, h⟩ := Binding.runWith_seq_ok h
      simp only [Binding.runWith_pure, Prod.mk.injEq, Except.ok.injEq] at h
      obtain ⟨rfl, rfl⟩ := h
      exact gives_orNull id (fun _ => rfl) (fun _ => rfl) (against_ok hd)
  case notAmong =>
    obtain ⟨d, rs, hd, h⟩ := Binding.runWith_seq_ok h
    simp only [Binding.runWith_pure, Prod.mk.injEq, Except.ok.injEq] at h
    obtain ⟨rfl, rfl⟩ := h
    exact gives_orNull .neg (fun _ => rfl) (fun _ => rfl) (membership_ok hd)
  case isNull | notIsNull =>
    simp only [Binding.runWith_pure, Prod.mk.injEq, Except.ok.injEq] at h
    obtain ⟨rfl, rfl⟩ := h
    exact gives_missing _ _ _
  case among => exact membership_ok h
  case hasKeys | hasAnyKey => exact keysAgainst_ok h
  case startsWith | endsWith => exact textAgainst_ok h
  case startsWithAnyCase | endsWithAnyCase | containsAnyCase | exactAnyCase => exact capitalsAgainst_ok h
  all_goals exact against_ok h

end PathFilter

/-- a truth value comes out as a flag, everything else as a parameter -/
theorem ArgumentForm.encode_ok {form : ArgumentForm} {f : Field} {v : Value} {a : Argument}
    (h : form.encode f v = .ok a) : form = .truth ∧ (∃ b, a = .flag b) ∨ form ≠ .truth ∧ ∃ p, a = .parameter p := by
  cases form with
  | truth =>
    simp only [encode, Except.ok.injEq] at h
    exact .inl ⟨rfl, _, h.symm⟩
  | field =>
    obtain ⟨p, _, rfl⟩ := Outcome.map_ok.mp h
    exact .inr ⟨by simp, p, rfl⟩
  | fieldList =>
    cases v with
    | list items =>
      obtain ⟨ps, _, rfl⟩ := Outcome.map_ok.mp h
      exact .inr ⟨by simp, _, rfl⟩
    | _ => simp [encode, failure] at h
  | text =>
    simp only [encode, Except.ok.injEq] at h
    exact .inr ⟨by simp, _, h.symm⟩
  | pattern w =>
    simp only [encode, Except.ok.injEq] at h
    exact .inr ⟨by simp, _, h.symm⟩

namespace Model

theorem condition_ok {m : Model} {key : String} {v : Value} {ps qs : List Value} {c : Condition Operand}
    (h : (m.condition key v).runWith ps = (.ok c, qs)) :
    Gives (m.encoded key v) ps (m.isNullCheck key v) c qs := by
  unfold condition at h
  unfold encoded isNullCheck
  cases he : m.filter? key with
  | none =>
    simp only [he] at h ⊢
    obtain ⟨found, rs, hf, h⟩ := Binding.runWith_seq_ok h
    rw [Binding.runWith_lift, Prod.mk.injEq] at hf
    obtain ⟨hf, rfl⟩ := hf
    cases found with
    | none => simp at h
    | some f =>
      simp only [hf] at h ⊢
      exact PathFilter.compile_ok h
  | some entry =>
    have form := form_of_filter he
    simp only [he] at h ⊢
    cases hf : m.field? entry.field with
    | none => simp [hf] at h
    | some f =>
      simp only [hf] at h ⊢
      obtain ⟨argument, rs, ha, h⟩ := Binding.runWith_seq_ok h
      rw [Binding.runWith_lift, Prod.mk.injEq] at ha
      obtain ⟨ha, rfl⟩ := ha
      rcases ArgumentForm.encode_ok ha with ⟨truth, b, rfl⟩ | ⟨other, p, rfl⟩
      · have check := form.mp truth
        simp only [Binding.runWith_pure, Prod.mk.injEq, Except.ok.injEq] at h
        obtain ⟨rfl, rfl⟩ := h
        rw [check]
        exact .check (entry.lookup.isFull_condition ..) (entry.lookup.parameters_condition_of_check _ check ..)
      · have check : entry.lookup.isNullCheck = false := by
          rw [← Bool.not_eq_true, ← form]
          exact other
        simp only [Binding.runWith_seq, Binding.runWith_bind_value, Binding.runWith_pure, Prod.mk.injEq,
          Except.ok.injEq] at h
        obtain ⟨rfl, rfl⟩ := h
        rw [check]
        refine .value ?_ (entry.lookup.isFull_condition ..) (entry.lookup.parameters_condition _ check ..)
        rw [ArgumentForm.encoded, ha]
        rfl

end Model

end Tabula
