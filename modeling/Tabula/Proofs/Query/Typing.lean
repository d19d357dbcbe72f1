import Tabula.Proofs.Database.StoredRow
import Tabula.Proofs.Model.Built
import Tabula.Proofs.Query.Parameters
import Tabula.Proofs.Sql.Typing
import Tabula.Schema.Definition
/-!
# Compiled parameters can be bound

Every value that a query binds can be bound to its placeholder, where the columns have the types of the table's
definition: `Model.fed_restriction` for filters, and from it one lemma for each kind of statement.  This takes filter
keys that find the field in their column; with fields of different names every key does.
-/

namespace Tabula

open Postgres (ColumnType typeOf Parameter.Encodes)
open Sql (Binds Condition Expected Operand Statement)

/-! ## Types of columns -/

namespace Model

/-- the type that a column has by the definition of the table -/
def serverType? (m : Model) (column : String) : Option ColumnType :=
  m.tableEntries.findSome? fun
    | .column c => if c.name = column then ColumnType.ofDeclared? c.type else none
    | _ => none

/-- the column of a field has the type of the field's kind -/
theorem serverType_of_mem {m : Model} (columns : (m.fields.map Field.column).Nodup) {f : Field} (hf : f ∈ m.fields) :
    m.serverType? f.column = some (typeOf f.kind) := by
  have own : Schema.Entry.column (f.columnDefinition m.isComposite) ∈ m.tableEntries :=
    List.mem_append_left _ (List.mem_append_left _ (List.mem_map.mpr ⟨f, hf, rfl⟩))
  cases found : m.serverType? f.column with
  | none =>
    have not := List.findSome?_eq_none_iff.mp found _ own
    simp [Field.columnDefinition, Postgres.ofDeclared_columnType] at not
  | some t =>
    obtain ⟨entry, mem, ht⟩ := List.exists_of_findSome?_eq_some found
    split at ht
    · next c =>
      split at ht
      · next same =>
        have fromField : ∃ g ∈ m.fields, Schema.Entry.column (g.columnDefinition m.isComposite) = .column c := by
          simp only [tableEntries, List.append_assoc, List.mem_append, List.mem_map] at mem
          rcases mem with mem | mem | ⟨group, _, mem⟩
          · exact mem
          · split at mem <;> simp at mem
          · cases mem
        obtain ⟨g, hg, defined⟩ := fromField
        obtain rfl := Schema.Entry.column.inj defined
        obtain rfl : g = f := List.inj_on_of_nodup_map columns hg hf same
        rw [Field.columnDefinition, Postgres.ofDeclared_columnType] at ht
        exact ht.symm
      · cases ht
    · cases ht

end Model

/-! ## What a compilation binds -/

/-- whether parameters have grown by values that can be bound to the given placeholders -/
def Fed (ps : List Value) (expected : Expected) (qs : List Value) : Prop :=
  ∃ values, qs = ps ++ values ∧ Binds (ps.length + 1) expected values

namespace Fed

variable {ps qs rs : List Value} {expected expected' : Expected}

theorem refl (ps : List Value) : Fed ps [] ps := ⟨[], (List.append_nil ps).symm, .nil⟩

theorem trans (h : Fed ps expected qs) (h' : Fed qs expected' rs) : Fed ps (expected ++ expected') rs := by
  obtain ⟨vs, rfl, binds⟩ := h
  obtain ⟨ws, rfl, binds'⟩ := h'
  refine ⟨vs ++ ws, List.append_assoc .., binds.append ?_⟩
  rwa [List.length_append, Nat.add_right_comm] at binds'

theorem one {t : ColumnType} {v : Value} (own : Parameter.Encodes t v) :
    Fed ps [(ps.length + 1, some t)] (ps ++ [v]) :=
  ⟨[v], rfl, .singleton own⟩

end Fed

/-! ## Lookups -/

namespace Lookup

/-- the type that a lookup expects its argument to have, given that of the column -/
def right (type : Option ColumnType) : Lookup → Option ColumnType
  | like | exactAnyCase | likeAnyCase => some .text
  | among | notAmong => type.map .array
  | _ => type

/-- the forms that go with a lookup -/
def takes : Lookup → ArgumentForm → Bool
  | among, .fieldList | notAmong, .fieldList => true
  | isNull, .truth | notIsNull, .truth => true
  | like, .pattern _ | likeAnyCase, .pattern _ => true
  | exactAnyCase, .text => true
  | exact, .field | notExact, .field | greater, .field | atLeast, .field | less, .field | atMost, .field => true
  | _, _ => false

theorem takes_of_mem : ∀ l ∈ commonLookups ++ orderedLookups ++ textLookups, l.2.1.takes l.2.2 = true := by decide

variable (lookup : Lookup) (columns : String → Option ColumnType) (column : String)

theorem expected_condition (h : lookup.isNullCheck = false) (n : Nat) (flag : Bool) :
    (lookup.condition (.column column) (.parameter n) flag).expected columns =
      [(n, lookup.right (columns column))] := by
  cases lookup <;> first | rfl | cases h

theorem expected_check (flag : Bool) :
    (lookup.condition (.column column) (.column column) flag).expected columns = [] := by
  cases lookup <;> cases flag <;> rfl

end Lookup

theorem encodes_text (s : String) : Parameter.Encodes .text (.string s) := by
  have held : FieldKind.text.holds (.string s) = true := rfl
  exact Postgres.Parameter.encodes_of_holds held trivial

theorem encodes_document (v : Value) : Parameter.Encodes .jsonb (PathFilter.document v) := by
  have held : FieldKind.json.holds (PathFilter.document v) = true := rfl
  exact Postgres.Parameter.encodes_of_holds held trivial

theorem encodes_texts (ss : List String) : Parameter.Encodes (.array .text) (.list (ss.map .string)) := by
  have strings : ∀ c ∈ ss.map Value.string, FieldKind.text.holds c = true ∧ c.InReach := by
    intro c hc
    obtain ⟨s, _, rfl⟩ := List.mem_map.mp hc
    exact ⟨rfl, trivial⟩
  have bound : Parameter.Encodes (.array (typeOf .text)) (.list (ss.map .string)) :=
    Postgres.Parameter.encodes_list (fun c hc => (strings c hc).1) fun c hc => (strings c hc).2
  exact bound

theorem encodes_documents (items : List Value) :
    Parameter.Encodes (.array .jsonb) (.list (items.map PathFilter.document)) := by
  have documents : ∀ c ∈ items.map PathFilter.document, FieldKind.json.holds c = true ∧ c.InReach := by
    intro c hc
    obtain ⟨v, _, rfl⟩ := List.mem_map.mp hc
    exact ⟨rfl, trivial⟩
  have bound : Parameter.Encodes (.array (typeOf .json)) (.list (items.map PathFilter.document)) :=
    Postgres.Parameter.encodes_list (fun c hc => (documents c hc).1) fun c hc => (documents c hc).2
  exact bound

/-- an argument in the form that goes with its lookup can be bound where the lookup expects it -/
theorem ArgumentForm.encodes_encode {form : ArgumentForm} {lookup : Lookup} {f : Field} {v p : Value}
    (takes : lookup.takes form = true) (kept : v.isKept = true) (h : form.encode f v = .ok (.parameter p)) :
    ∃ t, lookup.right (some (typeOf f.kind)) = some t ∧ Parameter.Encodes t p := by
  cases form with
  | field =>
    obtain ⟨c, stored, same⟩ := Outcome.map_ok.mp h
    obtain rfl := Argument.parameter.inj same
    refine ⟨typeOf f.kind, ?_, Postgres.Parameter.encodes_of_toStorage stored kept⟩
    cases lookup <;> first | rfl | cases takes
  | fieldList =>
    cases v with
    | list items =>
      obtain ⟨cells, stored, same⟩ := Outcome.map_ok.mp h
      obtain rfl := Argument.parameter.inj same
      have own := Postgres.Parameter.encodes_of_mapM_toStorage stored (Value.allKept_iff.mp kept)
      refine ⟨.array (typeOf f.kind), ?_, own⟩
      cases lookup <;> first | rfl | cases takes
    | _ => cases h
  | truth => cases h
  | text =>
    obtain rfl := Argument.parameter.inj (Except.ok.inj h)
    refine ⟨.text, ?_, encodes_text _⟩
    cases lookup <;> first | rfl | cases takes
  | pattern w =>
    obtain rfl := Argument.parameter.inj (Except.ok.inj h)
    refine ⟨.text, ?_, encodes_text _⟩
    cases lookup <;> first | rfl | cases takes

/-! ## Paths into documents -/

namespace PathFilter

variable {f : PathFilter} {op : Sql.Operator} {columns : String → Option ColumnType} {ps qs : List Value}
  {c : Condition Operand} {t : ColumnType} {v : Value}

/-- one value bound, and a condition made of its number -/
theorem fed_of_bind {make : Nat → Condition Operand} (expected : ∀ n, (make n).expected columns = [(n, some t)])
    (own : Parameter.Encodes t v) (h : (Binding.bind v >>= fun n => pure (make n)).runWith ps = (.ok c, qs)) :
    Fed ps (c.expected columns) qs := by
  simp only [Binding.runWith_seq, Binding.runWith_bind_value, Binding.runWith_pure, Prod.mk.injEq,
    Except.ok.injEq] at h
  obtain ⟨rfl, rfl⟩ := h
  rw [expected]
  exact .one own

theorem fed_against (right : op.right (some .jsonb) = some t) (own : Parameter.Encodes t v)
    (h : (f.against op v).runWith ps = (.ok c, qs)) : Fed ps (c.expected columns) qs :=
  fed_of_bind (fun n => by simp [Condition.expected, Sql.Term.expected, Sql.Term.type?, JsonPath.value,
    Operand.type?, Operand.expected, Operand.parameters, right]) own h

theorem fed_textAgainst {s : String} (right : op.right (some .text) = some .text)
    (h : (f.textAgainst op s).runWith ps = (.ok c, qs)) : Fed ps (c.expected columns) qs :=
  fed_of_bind (fun n => by simp [Condition.expected, Sql.Term.expected, Sql.Term.type?, JsonPath.valueText,
    Operand.type?, Operand.expected, Operand.parameters, right]) (encodes_text s) h

theorem fed_capitalsAgainst {s : String} (h : (f.capitalsAgainst op s).runWith ps = (.ok c, qs)) :
    Fed ps (c.expected columns) qs :=
  fed_of_bind (fun n => by simp [Condition.expected, Sql.Term.expected, JsonPath.valueText, Operand.expected,
    Operand.parameters]) (encodes_text s) h

theorem fed_membership (h : (f.membership v).runWith ps = (.ok c, qs)) : Fed ps (c.expected columns) qs := by
  cases v with
  | list items =>
    exact fed_of_bind (fun n => by simp [Condition.expected, JsonPath.value, Operand.type?, Operand.expected,
      Operand.parameters]) (encodes_documents items) h
  | _ => simp [membership, expectedList] at h

theorem fed_keysAgainst (right : op.right (some .jsonb) = some (.array .text))
    (h : (f.keys v >>= fun ks => f.against op (.list ks)).runWith ps = (.ok c, qs)) :
    Fed ps (c.expected columns) qs := by
  cases v with
  | list items =>
    have listed : items.map (fun v => Value.string v.text) = (items.map Value.text).map .string := by simp
    exact fed_against right (listed ▸ encodes_texts (items.map Value.text)) h
  | string s => exact fed_against right (encodes_texts [s]) h
  | _ => simp [keys, expectedList, Binding.runWith_seq] at h

/-- a missing value let through expects nothing more -/
theorem expected_orNull (c : Condition Operand) :
    (c.orNull f.path.value).expected columns = c.expected columns := by
  simp [Condition.orNull, Condition.expected, Condition.expectedAll, JsonPath.value, Operand.expected,
    Operand.parameters]

theorem expected_missing (flag : Bool) : (Condition.missing flag f.path.value).expected columns = [] := by
  cases flag <;> rfl

/-- **What a test of a document binds can be bound.** -/
theorem fed_compile (h : (f.compile v).runWith ps = (.ok c, qs)) : Fed ps (c.expected columns) qs := by
  have nothing : ∀ flag : Bool, (pure (Condition.missing flag f.path.value) : Binding _).runWith ps = (.ok c, qs) →
      Fed ps (c.expected columns) qs := by
    intro flag h
    simp only [Binding.runWith_pure, Prod.mk.injEq, Except.ok.injEq] at h
    obtain ⟨rfl, rfl⟩ := h
    rw [expected_missing]
    exact .refl ps
  unfold compile at h
  cases ht : f.test <;> simp only [ht] at h
  case exact =>
    split at h
    · exact nothing true h
    · exact fed_against rfl (encodes_document v) h
  case notExact =>
    split at h
    · exact nothing false h
    · obtain ⟨d, hd, rfl⟩ := Binding.runWith_seq_pure_ok h
      rw [expected_orNull]
      exact fed_against rfl (encodes_document v) hd
  case notAmong =>
    obtain ⟨d, hd, rfl⟩ := Binding.runWith_seq_pure_ok h
    have same : (Condition.neg d).expected columns = d.expected columns := rfl
    rw [expected_orNull, same]
    exact fed_membership hd
  case isNull | notIsNull => exact nothing _ h
  case among => exact fed_membership h
  case hasKey => exact fed_against rfl (encodes_text _) h
  case hasKeys | hasAnyKey => exact fed_keysAgainst rfl h
  case startsWith | endsWith => exact fed_textAgainst rfl h
  case startsWithAnyCase | endsWithAnyCase | containsAnyCase | exactAnyCase => exact fed_capitalsAgainst h
  all_goals exact fed_against rfl (encodes_document v) h

end PathFilter

/-! ## Filters -/

namespace Model

variable {m : Model} {ps qs : List Value}

/-- whether a filter key finds the field that stands in its column -/
def Finds (m : Model) (key : String) : Prop :=
  ∀ (entry : CatalogEntry) (f : Field), m.filter? key = some entry → m.field? entry.field = some f →
    f.column = entry.column

/-- where all fields have different names, every filter key finds its field -/
theorem finds_of_nodup (names : (m.fields.map Field.name).Nodup) (key : String) : m.Finds key := by
  intro entry f he hf
  obtain ⟨g, hg, known, listed⟩ := exists_of_filter he
  obtain ⟨l, _, same⟩ := List.mem_map.mp listed
  obtain ⟨_, rfl⟩ := Prod.mk.inj same
  exact congrArg Field.column (List.inj_on_of_nodup_map names (mem_of_field hf) hg (name_of_field hf))

/-- **What the condition of a pair binds can be bound.** -/
theorem fed_condition (sound : m.Sound) {key : String} (finds : m.Finds key) {v : Value} (kept : v.isKept = true)
    {c : Condition Operand} (h : (m.condition key v).runWith ps = (.ok c, qs)) :
    Fed ps (c.expected m.serverType?) qs := by
  unfold condition at h
  cases he : m.filter? key with
  | none =>
    simp only [he] at h
    obtain ⟨found, rs, hf, h⟩ := Binding.runWith_seq_ok h
    rw [Binding.runWith_lift, Prod.mk.injEq] at hf
    obtain ⟨_, rfl⟩ := hf
    cases found with
    | none => simp at h
    | some f => exact PathFilter.fed_compile h
  | some entry =>
    simp only [he] at h
    cases hf : m.field? entry.field with
    | none => simp [hf] at h
    | some f =>
      simp only [hf] at h
      obtain ⟨argument, rs, ha, h⟩ := Binding.runWith_seq_ok h
      rw [Binding.runWith_lift, Prod.mk.injEq] at ha
      obtain ⟨ha, rfl⟩ := ha
      have form := form_of_filter he
      rcases ArgumentForm.encode_ok ha with ⟨_, b, rfl⟩ | ⟨other, p, rfl⟩
      · simp only [Binding.runWith_pure, Prod.mk.injEq, Except.ok.injEq] at h
        obtain ⟨rfl, rfl⟩ := h
        rw [entry.lookup.expected_check]
        exact .refl ps
      · have check : entry.lookup.isNullCheck = false := by
          rw [← Bool.not_eq_true, ← form]
          exact other
        have column : m.serverType? entry.column = some (typeOf f.kind) :=
          finds entry f he hf ▸ serverType_of_mem sound.columns (mem_of_field hf)
        obtain ⟨suffix, mem⟩ := lookup_of_filter he
        obtain ⟨t, right, own⟩ := ArgumentForm.encodes_encode (Lookup.takes_of_mem _ mem) kept ha
        refine PathFilter.fed_of_bind (fun n => ?_) own h
        rw [entry.lookup.expected_condition _ _ check, column, right]

theorem fed_conditions (sound : m.Sound) {pairs : List (String × Value)}
    (finds : ∀ p ∈ pairs, m.Finds p.1) (kept : ∀ p ∈ pairs, p.2.isKept = true) {cs : List (Condition Operand)}
    (h : (m.conditions pairs).runWith ps = (.ok cs, qs)) :
    Fed ps (cs.flatMap (Condition.expected m.serverType?)) qs := by
  induction pairs generalizing ps cs with
  | nil =>
    simp only [conditions, Binding.runWith_pure, Prod.mk.injEq, Except.ok.injEq] at h
    obtain ⟨rfl, rfl⟩ := h
    exact .refl ps
  | cons p rest ih =>
    obtain ⟨c, ds, rs, hc, hd, rfl⟩ := conditions_cons_ok h
    obtain ⟨findsFirst, findsRest⟩ := List.forall_mem_cons.mp finds
    obtain ⟨keptFirst, keptRest⟩ := List.forall_mem_cons.mp kept
    exact (fed_condition sound findsFirst keptFirst hc).trans (ih findsRest keptRest hd)

end Model

namespace Filter

variable {m : Model} {ps qs : List Value} (columns : String → Option ColumnType)

/-- joining conditions and negating the join moves no placeholder -/
theorem expected_joined (join : Sql.Join) (negated : Bool) (parts : List (Condition Operand)) :
    ((Condition.joined join parts).map (negatedIf negated)).toList.flatMap (Condition.expected columns) =
      parts.flatMap (Condition.expected columns) := by
  match parts with
  | [] => rfl
  | [c] => cases negated <;> simp [Condition.joined, negatedIf, Condition.expected]
  | c :: d :: cs =>
    cases negated <;>
      simp [Condition.joined, negatedIf, Condition.expected, Condition.expectedAll_eq, Condition.expectedAll]

mutual

theorem fed_compile (sound : m.Sound) (f : Filter) (finds : ∀ p ∈ f.pairs, m.Finds p.1)
    (kept : ∀ p ∈ f.pairs, p.2.isKept = true) {ps qs : List Value} {c : Option (Condition Operand)}
    (h : (compile m f).runWith ps = (.ok c, qs)) :
    Fed ps (c.toList.flatMap (Condition.expected m.serverType?)) qs := by
  cases f with
  | leaf cs join negated =>
    obtain ⟨parts, hp, rfl⟩ := Binding.runWith_seq_pure_ok h
    rw [expected_joined]
    exact Model.fed_conditions sound finds kept hp
  | branch fs join negated =>
    obtain ⟨parts, hp, rfl⟩ := Binding.runWith_seq_pure_ok h
    rw [expected_joined]
    exact fed_compileAll sound fs finds kept hp

theorem fed_compileAll (sound : m.Sound) (fs : List Filter) (finds : ∀ p ∈ pairsAll fs, m.Finds p.1)
    (kept : ∀ p ∈ pairsAll fs, p.2.isKept = true) {ps qs : List Value} {cs : List (Condition Operand)}
    (h : (compileAll m fs).runWith ps = (.ok cs, qs)) : Fed ps (cs.flatMap (Condition.expected m.serverType?)) qs := by
  cases fs with
  | nil =>
    simp only [compileAll, Binding.runWith_pure, Prod.mk.injEq, Except.ok.injEq] at h
    obtain ⟨rfl, rfl⟩ := h
    exact .refl ps
  | cons f fs =>
    obtain ⟨c, ds, rs, hc, hd, rfl⟩ := compileAll_cons_ok h
    simp only [pairsAll, List.forall_mem_append] at finds kept
    rw [List.flatMap_append]
    exact (fed_compile sound f finds.1 kept.1 hc).trans (fed_compileAll sound fs finds.2 kept.2 hd)

end

end Filter

/-! ## Statements -/

namespace Model

variable {m : Model} {ps qs : List Value}

/-- whether the keys of filters find their fields, and their arguments hold no dates out of range -/
structure Answers (m : Model) (fs : List Filter) : Prop where
  finds : ∀ p ∈ Filter.pairsAll fs, m.Finds p.1
  kept : ∀ p ∈ Filter.pairsAll fs, p.2.isKept = true

/-- **What filters bind can be bound.** -/
theorem fed_restriction (sound : m.Sound) {fs : List Filter} (answers : m.Answers fs) {rows : Sql.Restriction}
    (h : (m.restriction fs).runWith ps = (.ok rows, qs)) : Fed ps (Sql.Restriction.expected m.serverType? rows) qs := by
  obtain ⟨cs, hc, rfl⟩ := Binding.runWith_map_ok h
  have fed := Filter.fed_compileAll sound fs answers.finds answers.kept hc
  cases cs <;> exact fed

/-- the parameters of a compiled statement can be bound to its placeholders -/
def Bindable (m : Model) (c : Compiled) : Prop := Binds 1 (c.statement.expected m.serverType?) c.parameters

theorem bindable_of_fed {c : Compiled} (h : Fed [] (c.statement.expected m.serverType?) c.parameters) :
    m.Bindable c := by
  obtain ⟨values, same, binds⟩ := h
  rw [List.nil_append] at same
  rw [Bindable, same]
  exact binds

/-- a statement that has just the placeholders of a restriction -/
theorem bindable_of_rows (sound : m.Sound) {fs : List Filter} (answers : m.Answers fs)
    {make : Sql.Restriction → Statement}
    (expected : ∀ rows, (make rows).expected m.serverType? = Sql.Restriction.expected m.serverType? rows) {c : Compiled}
    (h : finished (make <$> m.restriction fs) = .ok c) : m.Bindable c := by
  obtain ⟨rows, hr, hs⟩ := Binding.runWith_map_ok (finished_ok h)
  refine bindable_of_fed ?_
  rw [← hs, expected]
  exact fed_restriction sound answers hr

/-- a statement that has just the placeholders of a selection of rows -/
theorem bindable_of_selectRows (sound : m.Sound) {s : Selection} (answers : m.Answers s.filters)
    {make : Sql.Select → Statement}
    (expected : ∀ select, (make select).expected m.serverType? = select.expected m.serverType?) {c : Compiled}
    (h : finished (make <$> m.selectRows s) = .ok c) : m.Bindable c := by
  obtain ⟨select, hs, hc⟩ := Binding.runWith_map_ok (finished_ok h)
  obtain ⟨hr, order⟩ := selectRows_ok hs
  have unordered : ((select.order.getD []).flatMap fun k => k.operand.expected none) = [] := by
    refine List.flatMap_eq_nil_iff.mpr fun k hk => ?_
    cases ho : select.order with
    | none => simp [ho] at hk
    | some keys => rw [Operand.expected, order keys ho k (by simpa [ho] using hk), List.map_nil]
  refine bindable_of_fed ?_
  rw [← hc, expected, Sql.Select.expected, unordered, List.append_nil]
  exact fed_restriction sound answers hr

theorem bindable_select (sound : m.Sound) {s : Selection} (answers : m.Answers s.filters) {c : Compiled}
    (h : m.select s = .ok c) : m.Bindable c :=
  bindable_of_selectRows sound answers (fun _ => rfl) h

theorem bindable_explain (sound : m.Sound) {s : Selection} (answers : m.Answers s.filters) {c : Compiled}
    (h : m.explain s = .ok c) : m.Bindable c :=
  bindable_of_selectRows sound answers (fun _ => rfl) h

theorem bindable_count (sound : m.Sound) {s : Selection} (answers : m.Answers s.filters) {c : Compiled}
    (h : m.count s = .ok c) : m.Bindable c := by
  unfold count at h
  split at h
  · exact bindable_of_selectRows (s := { s with ordering := [] }) sound answers (fun _ => rfl) h
  · exact bindable_of_rows sound answers (fun _ => rfl) h

theorem bindable_deleteWhere (sound : m.Sound) {fs : List Filter} (answers : m.Answers fs) {c : Compiled}
    (h : m.deleteWhere fs = .ok c) : m.Bindable c :=
  bindable_of_rows sound answers (fun _ => rfl) h

/-! ### Values for columns -/

/-- columns with their placeholders, and the types that these are expected to hold -/
def expectedOf (m : Model) (places : List (String × Nat)) : Expected := places.map fun e => (e.2, m.serverType? e.1)

/-- values that can be bound to the columns at their positions -/
theorem binds_numbered {row : List (Nat × Value)}
    (own : ∀ a ∈ row, ∃ t, m.serverType? (m.column a.1) = some t ∧ Parameter.Encodes t a.2) (first : Nat) :
    Binds first (m.expectedOf (m.numbered first (row.map Prod.fst))) (row.map Prod.snd) := by
  induction row generalizing first with
  | nil => exact .nil
  | cons a rest ih =>
    obtain ⟨⟨t, type, encodes⟩, others⟩ := List.forall_mem_cons.mp own
    rw [List.map_cons, List.map_cons, numbered_cons, expectedOf, List.map_cons, type]
    exact .cons encodes (ih others (first + 1))

theorem numbered_fst (first : Nat) (row : List (Nat × Value)) :
    m.numbered first (row.map Prod.fst) = (row.zipIdx first).map fun (a, n) => (m.column a.1, n) := by
  induction row generalizing first with
  | nil => rfl
  | cons a rest ih => rw [List.map_cons, numbered_cons, ih, List.zipIdx_cons, List.map_cons]

theorem bindable_updateWhere (sound : m.Sound) {assigned : List (Nat × Value)} {fs : List Filter}
    (answers : m.Answers fs)
    (own : ∀ a ∈ assigned, ∃ t, m.serverType? (m.column a.1) = some t ∧ Parameter.Encodes t a.2) {c : Compiled}
    (h : m.updateWhere assigned fs = .ok c) : m.Bindable c := by
  unfold updateWhere at h
  split at h
  · cases h
  · obtain ⟨sets, ps, hsets, hb⟩ := Binding.runWith_seq_ok (finished_ok h)
    obtain ⟨rows, hr, hs⟩ := Binding.runWith_map_ok hb
    obtain ⟨rfl, rfl⟩ := assign_ok hsets
    have sets := binds_numbered own 1
    rw [numbered_fst] at sets
    refine bindable_of_fed ?_
    rw [← hs]
    exact Fed.trans ⟨_, rfl, sets⟩ (fed_restriction sound answers hr)

end Model

end Tabula
