import Tabula.Proofs.Query.Parameters
/-!
# Values stay out of the text

Two compilations that differ in their values only give the same text.  `Binding.Alike` compares two runs that have
bound as many parameters before; each step of a compilation keeps them alike.  Where a condition is chosen by its
value, `Model.agree` says whether two values choose the same.
-/

namespace Tabula

open Sql (Condition Operand Statement)

/-! ## Two runs -/

namespace Binding

variable {α β : Type}

/-- two compilations that, when both succeed behind equally many parameters, give related results and bind equally many
parameters -/
def Alike (R : α → α → Prop) (x y : Binding α) : Prop :=
  ∀ ⦃ps qs ps' qs' : List Value⦄ ⦃a b : α⦄, ps.length = qs.length → x.runWith ps = (.ok a, ps') →
    y.runWith qs = (.ok b, qs') → R a b ∧ ps'.length = qs'.length

namespace Alike

variable {R : α → α → Prop} {S : β → β → Prop}

theorem pure {a b : α} (h : R a b) : Alike R (pure a) (pure b) := by
  intro ps qs ps' qs' a' b' len ha hb
  simp only [runWith_pure, Prod.mk.injEq, Except.ok.injEq] at ha hb
  obtain ⟨rfl, rfl⟩ := ha
  obtain ⟨rfl, rfl⟩ := hb
  exact ⟨h, len⟩

theorem lift {x y : Outcome α} (h : ∀ a b, x = .ok a → y = .ok b → R a b) : Alike R (lift x) (lift y) := by
  intro ps qs ps' qs' a b len ha hb
  simp only [runWith_lift, Prod.mk.injEq] at ha hb
  obtain ⟨ha, rfl⟩ := ha
  obtain ⟨hb, rfl⟩ := hb
  exact ⟨h a b ha hb, len⟩

/-- any two values are bound under the same number -/
theorem bind (v w : Value) : Alike Eq (Binding.bind v) (Binding.bind w) := by
  intro ps qs ps' qs' a b len ha hb
  simp only [runWith_bind_value, Prod.mk.injEq, Except.ok.injEq] at ha hb
  obtain ⟨rfl, rfl⟩ := ha
  obtain ⟨rfl, rfl⟩ := hb
  simp [len]

theorem seq {x y : Binding α} {f g : α → Binding β} (h : Alike R x y) (hf : ∀ a b, R a b → Alike S (f a) (g b)) :
    Alike S (x >>= f) (y >>= g) := by
  intro ps qs ps' qs' c d len hc hd
  obtain ⟨a, ps₁, hx, hc⟩ := runWith_seq_ok hc
  obtain ⟨b, qs₁, hy, hd⟩ := runWith_seq_ok hd
  obtain ⟨related, len⟩ := h len hx hy
  exact hf a b related len hc hd

/-- the same is done with equal results -/
theorem seq_eq {x y : Binding α} {f g : α → Binding β} (h : Alike Eq x y) (hf : ∀ a, Alike S (f a) (g a)) :
    Alike S (x >>= f) (y >>= g) := h.seq fun a _ hab => hab ▸ hf a

theorem map {x y : Binding α} (f : α → β) (h : Alike Eq x y) : Alike Eq (f <$> x) (f <$> y) := by
  rw [map_eq_pure_bind, map_eq_pure_bind]
  exact h.seq_eq fun a => .pure rfl

theorem throw_left (e : Error) (y : Binding α) : Alike R (throw e) y := by
  intro ps qs ps' qs' a b _ ha
  simp at ha

theorem fail_left (kind : ErrorKind) (detail : String) (y : Binding α) : Alike R (fail kind detail) y :=
  throw_left _ y

theorem fail_right (kind : ErrorKind) (detail : String) (x : Binding α) : Alike R x (fail kind detail) := by
  intro ps qs ps' qs' a b _ _ hb
  simp at hb

end Alike

end Binding

open Binding (Alike)

/-! ## Values that choose the same condition -/

/-- whether a test of a path has the same condition for two values: an equality looks whether its value is missing, a
null check whether it counts as true, all others at nothing -/
def PathTest.agree (v w : Value) : PathTest → Bool
  | exact | notExact => v.isNull == w.isNull
  | isNull | notIsNull => v.isTruthy == w.isTruthy
  | _ => true

/-- the same for a comparison of a field -/
def Lookup.agree (v w : Value) : Lookup → Bool
  | isNull | notIsNull => v.isTruthy == w.isTruthy
  | _ => true

/-- and for the key of a filter -/
def Model.agree (m : Model) (key : String) (v w : Value) : Bool :=
  match m.filter? key with
  | some entry => entry.lookup.agree v w
  | none =>
    match PathFilter.parse? m key with
    | .ok (some f) => f.test.agree v w
    | _ => true

namespace PathFilter

variable (f : PathFilter) (op : Sql.Operator)

theorem alike_against (v w : Value) : Alike Eq (f.against op v) (f.against op w) :=
  (Alike.bind v w).seq_eq fun _ => .pure rfl

theorem alike_textAgainst (s t : String) : Alike Eq (f.textAgainst op s) (f.textAgainst op t) :=
  (Alike.bind _ _).seq_eq fun _ => .pure rfl

theorem alike_capitalsAgainst (s t : String) : Alike Eq (f.capitalsAgainst op s) (f.capitalsAgainst op t) :=
  (Alike.bind _ _).seq_eq fun _ => .pure rfl

theorem alike_membership (v w : Value) : Alike Eq (f.membership v) (f.membership w) := by
  cases v with
  | list items =>
    cases w with
    | list items' => exact (Alike.bind _ _).seq_eq fun _ => .pure rfl
    | _ => exact .fail_right _ _ _
  | _ => exact .fail_left _ _ _

/-- the keys themselves may differ -/
theorem alike_keys (v w : Value) : Alike (fun _ _ => True) (f.keys v) (f.keys w) := by
  cases v with
  | list _ | string _ =>
    cases w with
    | list _ | string _ => exact .pure trivial
    | _ => exact .fail_right _ _ _
  | _ => exact .fail_left _ _ _

theorem alike_compile {v w : Value} (h : f.test.agree v w = true) : Alike Eq (f.compile v) (f.compile w) := by
  unfold compile
  cases ht : f.test <;> simp only [ht, PathTest.agree, beq_iff_eq] at h ⊢
  case exact =>
    rw [h]
    split
    · exact .pure rfl
    · exact f.alike_against ..
  case notExact =>
    rw [h]
    split
    · exact .pure rfl
    · exact (f.alike_against ..).seq_eq fun _ => .pure rfl
  case isNull | notIsNull =>
    rw [h]
    exact .pure rfl
  case among => exact f.alike_membership v w
  case notAmong => exact (f.alike_membership v w).seq_eq fun _ => .pure rfl
  case hasKeys | hasAnyKey => exact (f.alike_keys v w).seq fun _ _ _ => f.alike_against ..
  case startsWith | endsWith => exact f.alike_textAgainst ..
  case startsWithAnyCase | endsWithAnyCase | containsAnyCase | exactAnyCase => exact f.alike_capitalsAgainst ..
  all_goals exact f.alike_against ..

end PathFilter

namespace Model

variable {m : Model}

/-- the argument of a null check is the truth of its value -/
theorem encode_truth {form : ArgumentForm} {f : Field} {v : Value} {b : Bool}
    (h : form.encode f v = .ok (.flag b)) : v.isTruthy = b := by
  rcases ArgumentForm.encode_ok h with ⟨rfl, _⟩ | ⟨_, p, hp⟩
  · simpa [ArgumentForm.encode] using h
  · cases hp

theorem alike_condition {key : String} {v w : Value} (h : m.agree key v w = true) :
    Alike Eq (m.condition key v) (m.condition key w) := by
  unfold condition
  unfold agree at h
  cases he : m.filter? key with
  | none =>
    simp only [he] at h ⊢
    refine Alike.seq (R := fun a b => a = b ∧ PathFilter.parse? m key = .ok a) ?_ ?_
    · exact .lift fun a b ha hb => ⟨Except.ok.inj (ha.symm.trans hb), ha⟩
    · rintro found _ ⟨rfl, parsed⟩
      cases found with
      | none => exact .throw_left _ _
      | some f => exact f.alike_compile (by simpa [parsed] using h)
  | some entry =>
    have form := form_of_filter he
    simp only [he] at h ⊢
    cases m.field? entry.field with
    | none => exact .throw_left _ _
    | some f =>
      refine Alike.seq (R := fun a b => entry.form.encode f v = .ok a ∧ entry.form.encode f w = .ok b)
        (.lift fun a b ha hb => ⟨ha, hb⟩) ?_
      rintro a b ⟨ha, hb⟩
      rcases ArgumentForm.encode_ok ha with ⟨truth, s, rfl⟩ | ⟨other, p, rfl⟩ <;>
        rcases ArgumentForm.encode_ok hb with ⟨truth', t, rfl⟩ | ⟨other', q, rfl⟩
      · have same : s = t := by
          rw [← encode_truth ha, ← encode_truth hb]
          have check := form.mp truth
          cases hl : entry.lookup <;> simp_all [Lookup.agree, Lookup.isNullCheck]
        rw [same]
        exact .pure rfl
      · exact absurd truth other'
      · exact absurd truth' other
      · exact (Alike.bind p q).seq_eq fun _ => .pure rfl

/-- conditions with the same keys, and values that choose the same conditions -/
def AlikePair (m : Model) (p q : String × Value) : Prop := p.1 = q.1 ∧ m.agree p.1 p.2 q.2 = true

theorem alike_conditions {cs ds : List (String × Value)} (h : List.Forall₂ m.AlikePair cs ds) :
    Alike Eq (m.conditions cs) (m.conditions ds) := by
  induction h with
  | nil => exact .pure rfl
  | @cons p q _ _ pair _ ih =>
    obtain ⟨key, v⟩ := p
    obtain ⟨_, w⟩ := q
    obtain ⟨rfl, agree⟩ := pair
    exact (alike_condition agree).seq_eq fun _ => ih.seq_eq fun _ => .pure rfl

end Model

/-! ## Trees, selections and statements -/

namespace Filter

mutual

/-- trees of one shape, alike in every condition -/
def Alike (m : Model) : Filter → Filter → Prop
  | leaf cs j n, leaf ds k o => List.Forall₂ m.AlikePair cs ds ∧ j = k ∧ n = o
  | branch fs j n, branch gs k o => AlikeAll m fs gs ∧ j = k ∧ n = o
  | _, _ => False

def AlikeAll (m : Model) : List Filter → List Filter → Prop
  | [], [] => True
  | f :: fs, g :: gs => Alike m f g ∧ AlikeAll m fs gs
  | _, _ => False

end

mutual

theorem alike_compile {m : Model} (f g : Filter) (h : f.Alike m g) :
    Binding.Alike Eq (compile m f) (compile m g) := by
  cases f with
  | leaf cs j n =>
    cases g with
    | branch => exact h.elim
    | leaf ds k o =>
      obtain ⟨pairs, rfl, rfl⟩ := h
      exact (Model.alike_conditions pairs).seq_eq fun _ => .pure rfl
  | branch fs j n =>
    cases g with
    | leaf => exact h.elim
    | branch gs k o =>
      obtain ⟨children, rfl, rfl⟩ := h
      exact (alike_compileAll fs gs children).seq_eq fun _ => .pure rfl

theorem alike_compileAll {m : Model} (fs gs : List Filter) (h : AlikeAll m fs gs) :
    Binding.Alike Eq (compileAll m fs) (compileAll m gs) := by
  cases fs with
  | nil =>
    cases gs with
    | nil => exact .pure rfl
    | cons => exact h.elim
  | cons f fs =>
    cases gs with
    | nil => exact h.elim
    | cons g gs =>
      have rest := alike_compileAll fs gs h.2
      refine (alike_compile f g h.1).seq_eq fun c => ?_
      cases c with
      | none => exact rest
      | some c => exact rest.seq_eq fun _ => .pure rfl

end

end Filter

/-- selections that differ in the values of their filters only -/
structure Selection.Alike (m : Model) (s t : Selection) : Prop where
  filters : Filter.AlikeAll m s.filters t.filters
  ordering : s.ordering = t.ordering
  limit : s.limit = t.limit
  offset : s.offset = t.offset
  distinct : s.distinct = t.distinct

namespace Model

variable {m : Model}

theorem alike_restriction {fs gs : List Filter} (h : Filter.AlikeAll m fs gs) :
    Alike Eq (m.restriction fs) (m.restriction gs) :=
  (Filter.alike_compileAll fs gs h).map _

theorem alike_selectRows {s t : Selection} (h : s.Alike m t) : Alike Eq (m.selectRows s) (m.selectRows t) := by
  unfold selectRows
  rw [h.ordering, h.limit, h.offset, h.distinct]
  refine (alike_restriction h.filters).seq_eq fun rows => ?_
  exact Alike.seq_eq (.lift fun a b ha hb => Except.ok.inj (ha.symm.trans hb)) fun order => .pure rfl

theorem alike_assign {as bs : List (Nat × Value)} (h : as.map Prod.fst = bs.map Prod.fst) :
    Alike Eq (m.assign as) (m.assign bs) := by
  induction as generalizing bs with
  | nil =>
    obtain rfl := List.map_eq_nil_iff.mp h.symm
    exact .pure rfl
  | cons a as ih =>
    cases bs with
    | nil => simp at h
    | cons b bs =>
      obtain ⟨i, v⟩ := a
      obtain ⟨j, w⟩ := b
      obtain ⟨rfl, rest⟩ := List.cons_eq_cons.mp h
      exact (Alike.bind v w).seq_eq fun _ => (ih rest).seq_eq fun _ => .pure rfl

end Model

namespace Compilation

/-- compilations that differ in values only: those of the filters, of the columns that are set and of the parameters
bound before -/
def Alike (m : Model) : Compilation → Compilation → Prop
  | select s, select t | count s, count t | explain s, explain t => s.Alike m t
  | updateWhere as fs, updateWhere bs gs => as.map Prod.fst = bs.map Prod.fst ∧ Filter.AlikeAll m fs gs
  | deleteWhere fs, deleteWhere gs => Filter.AlikeAll m fs gs
  | restriction before fs, restriction before' gs => before.length = before'.length ∧ Filter.AlikeAll m fs gs
  | _, _ => False

/-- two statements, alike when both compile -/
def AlikeStatements (x y : Outcome Compiled) : Prop :=
  ∀ c d, x = .ok c → y = .ok d → c.text = d.text ∧ c.parameters.length = d.parameters.length

theorem AlikeStatements.finished {x y : Binding Statement} (h : Binding.Alike Eq x y) :
    AlikeStatements (Model.finished x) (Model.finished y) := by
  intro c d hc hd
  obtain ⟨same, len⟩ := h rfl (Model.finished_ok hc) (Model.finished_ok hd)
  exact ⟨by rw [Compiled.text, Compiled.text, same], len⟩

theorem alike_count {m : Model} {s t : Selection} (h : s.Alike m t) : AlikeStatements (m.count s) (m.count t) := by
  have windowed : s.isWindowed = t.isWindowed := by
    rw [Selection.isWindowed, Selection.isWindowed, h.limit, h.offset, h.distinct]
  unfold Model.count
  rw [windowed]
  split
  · have unordered : Selection.Alike m { s with ordering := [] } { t with ordering := [] } :=
      ⟨h.filters, rfl, h.limit, h.offset, h.distinct⟩
    exact .finished ((Model.alike_selectRows unordered).map _)
  · exact .finished ((Model.alike_restriction h.filters).map _)

theorem alike_updateWhere {m : Model} {as bs : List (Nat × Value)} {fs gs : List Filter}
    (set : as.map Prod.fst = bs.map Prod.fst) (h : Filter.AlikeAll m fs gs) :
    AlikeStatements (m.updateWhere as fs) (m.updateWhere bs gs) := by
  have none : as.isEmpty = bs.isEmpty := by
    rw [← List.isEmpty_map (f := Prod.fst), set, List.isEmpty_map]
  unfold Model.updateWhere
  rw [none]
  split
  · intro c d hc
    cases hc
  · exact .finished <| (Model.alike_assign set).seq_eq fun _ => (Model.alike_restriction h).map _

/-- **Values never reach the text.**  Compilations that differ in values only have the same text and as many
parameters. -/
theorem text_of_alike {m : Model} {t u : Compilation} (h : t.Alike m u) {text text' : String}
    {params params' : List Value} (ht : t.result m = .ok (text, params)) (hu : u.result m = .ok (text', params')) :
    text = text' ∧ params.length = params'.length := by
  have statements {x y : Outcome Compiled} (alike : AlikeStatements x y)
      (hx : x.map (fun c => (c.text, c.parameters)) = .ok (text, params))
      (hy : y.map (fun c => (c.text, c.parameters)) = .ok (text', params')) :
      text = text' ∧ params.length = params'.length := by
    obtain ⟨c, hc, heq⟩ := Outcome.map_ok.mp hx
    obtain ⟨d, hd, heq'⟩ := Outcome.map_ok.mp hy
    obtain ⟨rfl, rfl⟩ := Prod.mk.inj heq
    obtain ⟨rfl, rfl⟩ := Prod.mk.inj heq'
    exact alike c d hc hd
  cases t with
  | select s =>
    cases u with
    | select => exact statements (.finished ((Model.alike_selectRows h).map _)) ht hu
    | _ => exact h.elim
  | count s =>
    cases u with
    | count => exact statements (alike_count h) ht hu
    | _ => exact h.elim
  | explain s =>
    cases u with
    | explain => exact statements (.finished ((Model.alike_selectRows h).map _)) ht hu
    | _ => exact h.elim
  | updateWhere as fs =>
    cases u with
    | updateWhere => exact statements (alike_updateWhere h.1 h.2) ht hu
    | _ => exact h.elim
  | deleteWhere fs =>
    cases u with
    | deleteWhere => exact statements (.finished ((Model.alike_restriction h).map _)) ht hu
    | _ => exact h.elim
  | restriction before fs =>
    cases u with
    | restriction before' gs =>
      simp only [result] at ht hu
      split at ht
      · next rows ps hr =>
        obtain ⟨rfl, rfl⟩ := Prod.mk.inj (Except.ok.inj ht)
        split at hu
        · next rows' ps' hr' =>
          obtain ⟨rfl, rfl⟩ := Prod.mk.inj (Except.ok.inj hu)
          obtain ⟨rfl, len⟩ := Model.alike_restriction h.2 h.1 hr hr'
          exact ⟨rfl, len⟩
        · cases hu
      · cases ht
    | _ => exact h.elim

/-- notes with a document -/
def ofNotes : Model where
  name := "Note"
  table := "note"
  database := defaultDatabase
  isAbstract := false
  description := none
  uniqueTogether := []
  indexes := []
  fields := [(Field.new "id" .int).asKey, Field.new "doc" .json]
  key := [0]

/-- notes with one of some tags, or neither a name nor an identity nor a length that are given -/
def noteSelection (tags : Value) (name identity length : Value) : Selection where
  filters := [.either (.condition "doc.tags__has_keys" tags)
    (~~~(Filter.ofPairs [("doc.name", name), ("id__in", identity), ("doc.length__isnull", length)]))]
  ordering := [⟨"doc.name", true⟩]
  limit := some 5

theorem text_of_alike_notes : ∃ text text' params params',
    (select (noteSelection (.string "a") (.string "it's") (.list [.int 1]) (.int 7))).result ofNotes =
      .ok (text, params) ∧
    (select (noteSelection (.list []) (.int 3) (.list [.int 2, .int 3]) (.bool true))).result ofNotes =
      .ok (text', params') ∧ text = text' ∧ params.length = params'.length := by
  have compiles : ((select (noteSelection (.string "a") (.string "it's") (.list [.int 1]) (.int 7))).result
      ofNotes).isOk = true := by decide +kernel
  have compiles' : ((select (noteSelection (.list []) (.int 3) (.list [.int 2, .int 3]) (.bool true))).result
      ofNotes).isOk = true := by decide +kernel
  have alike : Alike ofNotes (select (noteSelection (.string "a") (.string "it's") (.list [.int 1]) (.int 7)))
      (select (noteSelection (.list []) (.int 3) (.list [.int 2, .int 3]) (.bool true))) := by
    refine ⟨⟨⟨⟨?_, ?_, trivial⟩, rfl, rfl⟩, trivial⟩, rfl, rfl, rfl, rfl⟩
    · exact ⟨.cons ⟨rfl, by decide +kernel⟩ .nil, rfl, rfl⟩
    · exact ⟨.cons ⟨rfl, by decide +kernel⟩ (.cons ⟨rfl, by decide +kernel⟩ (.cons ⟨rfl, by decide +kernel⟩ .nil)),
        rfl, rfl⟩
  match ht : (select (noteSelection (.string "a") (.string "it's") (.list [.int 1]) (.int 7))).result ofNotes,
    hu : (select (noteSelection (.list []) (.int 3) (.list [.int 2, .int 3]) (.bool true))).result ofNotes with
  | .ok (text, params), .ok (text', params') =>
    exact ⟨text, text', params, params', rfl, rfl, text_of_alike alike ht hu⟩
  | .error e, _ =>
    rw [ht] at compiles
    cases compiles
  | .ok _, .error e =>
    rw [hu] at compiles'
    cases compiles'

end Compilation

end Tabula
