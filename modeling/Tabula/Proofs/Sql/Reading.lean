import Tabula.Proofs.Outcome
import Tabula.Proofs.Sql.Truth
import Tabula.Proofs.Sql.Written
/-!
# Reading conditions

The text of a condition as the database reads it: parentheses first, then NOT over AND over OR.  Whatever stands
between these connectives is a predicate, which the reading leaves as it is.  `Condition.ofText_text` and
`Condition.ofText_listText`: the text of a condition without empty groups is read back into its own shape.
-/

namespace Tabula.Sql

/-! ## Readings -/

/-- predicates under connectives -/
inductive Reading (α : Type) where
  | leaf (a : α)
  | neg (r : Reading α)
  | group (join : Join) (parts : List (Reading α))

namespace Reading

variable {α β : Type}

instance [Inhabited α] : Inhabited (Reading α) := ⟨leaf default⟩

/-- parts under a join; one part stands alone -/
def grouped (join : Join) : List (Reading α) → Reading α
  | [r] => r
  | rs => group join rs

/-- parts under a join, if there are any -/
def grouped? (join : Join) : List (Reading α) → Option (Reading α)
  | [] => none
  | rs => some (grouped join rs)

mutual

/-- the truth value, given that of the predicates -/
def eval (truth : α → Truth) : Reading α → Truth
  | leaf a => truth a
  | neg r => (eval truth r).not
  | group join parts => Truth.joined join (evalAll truth parts)

def evalAll (truth : α → Truth) : List (Reading α) → List Truth
  | [] => []
  | r :: rs => eval truth r :: evalAll truth rs

end

mutual

/-- the reading with a reading in the place of every predicate -/
def bind (f : α → Reading β) : Reading α → Reading β
  | leaf a => f a
  | neg r => neg (bind f r)
  | group join parts => group join (bindAll f parts)

def bindAll (f : α → Reading β) : List (Reading α) → List (Reading β)
  | [] => []
  | r :: rs => bind f r :: bindAll f rs

end

mutual

/-- the predicates from left to right -/
def leaves : Reading α → List α
  | leaf a => [a]
  | neg r => leaves r
  | group _ parts => leavesAll parts

def leavesAll : List (Reading α) → List α
  | [] => []
  | r :: rs => leaves r ++ leavesAll rs

end

theorem evalAll_eq (truth : α → Truth) (rs : List (Reading α)) : evalAll truth rs = rs.map (eval truth) := by
  induction rs with
  | nil => rfl
  | cons r rs ih => rw [evalAll, ih, List.map_cons]

theorem bindAll_eq (f : α → Reading β) (rs : List (Reading α)) : bindAll f rs = rs.map (bind f) := by
  induction rs with
  | nil => rfl
  | cons r rs ih => rw [bindAll, ih, List.map_cons]

theorem leavesAll_eq (rs : List (Reading α)) : leavesAll rs = rs.flatMap leaves := by
  induction rs with
  | nil => rfl
  | cons r rs ih => rw [leavesAll, ih, List.flatMap_cons]

@[simp] theorem grouped_singleton (join : Join) (r : Reading α) : grouped join [r] = r := rfl

theorem eval_grouped (truth : α → Truth) (join : Join) (rs : List (Reading α)) :
    (grouped join rs).eval truth = Truth.joined join (rs.map (eval truth)) := by
  match rs with
  | [] => rfl
  | [r] => simp [grouped]
  | r :: s :: rs => simp [grouped, eval, evalAll_eq]

theorem bind_grouped (f : α → Reading β) (join : Join) (rs : List (Reading α)) :
    (grouped join rs).bind f = grouped join (rs.map (bind f)) := by
  match rs with
  | [] => rfl
  | [r] => rfl
  | r :: s :: rs => simp [grouped, bind, bindAll_eq]

theorem leaves_grouped (join : Join) (rs : List (Reading α)) : (grouped join rs).leaves = rs.flatMap leaves := by
  match rs with
  | [] => rfl
  | [r] => simp [grouped]
  | r :: s :: rs => simp [grouped, leaves, leavesAll_eq]

end Reading

/-! ## Items -/

/-- a token, or what stands between two parentheses -/
inductive Item where
  | token (t : Token)
  | group (items : List Item)

/-- the items of a text; `outer` are those in front of each parenthesis that is still open -/
def nest (outer : List (List Item)) (items : List Item) : List Token → Option (List Item)
  | [] => if outer.isEmpty then some items else none
  | .opening :: rest => nest (items :: outer) [] rest
  | .closing :: rest =>
    match outer with
    | [] => none
    | before :: outer => nest outer (before ++ [.group items]) rest
  | t :: rest => nest outer (items ++ [.token t]) rest

/-- items that are no connective -/
abbrev Predicate := List Item

/-! ## Precedence -/

/-- an item with the reading of what it holds in parentheses -/
abbrev Annotated := Item × Option (Reading Predicate)

def isKeyword (w : String) : Annotated → Bool
  | (.token (.word v), _) => v = w
  | _ => false

/-- negations, and behind them a condition in parentheses or a predicate -/
def readFactor : List Annotated → Option (Reading Predicate)
  | [] => none
  | [(.group _, inner)] => inner
  | i :: rest =>
    if isKeyword "NOT" i then (readFactor rest).map .neg else some (.leaf ((i :: rest).map Prod.fst))

/-- factors with AND between them -/
def readTerm (is : List Annotated) : Option (Reading Predicate) :=
  ((is.splitOnP (isKeyword "AND")).mapM readFactor).map (.grouped .and)

/-- terms with OR between them -/
def readTerms (is : List Annotated) : Option (Reading Predicate) :=
  ((is.splitOnP (isKeyword "OR")).mapM readTerm).map (.grouped .or)

mutual

/-- the reading of what an item holds in parentheses -/
def Item.inner : Item → Option (Reading Predicate)
  | .token _ => none
  | .group is => readTerms (annotated is)

def annotated : List Item → List Annotated
  | [] => []
  | i :: is => (i, i.inner) :: annotated is

end

/-- how a text is read as a condition; none if it is none -/
def Reading.ofText? (text : String) : Option (Reading Predicate) := do
  let tokens ← scan text
  let items ← nest [] [] tokens
  readTerms (annotated items)

example : (Reading.ofText? "NOT a OR (b) AND NOT (c OR d)").map (Reading.eval fun p => match p with
    | [.token (.word "b")] => .unknown
    | [.token (.word "a")] => .yes
    | _ => .no) = some .unknown := by decide +kernel

/-! ## Items of conditions -/

/-- whether tokens have these items, wherever they stand -/
def Nests (ts : List Token) (is : List Item) : Prop :=
  ∀ outer before rest, nest outer before (ts ++ rest) = nest outer (before ++ is) rest

namespace Nests

theorem nil : Nests [] [] := by
  intro outer before rest
  simp

theorem token {t : Token} (ho : t ≠ .opening) (hc : t ≠ .closing) : Nests [t] [.token t] := by
  intro outer before rest
  rw [List.singleton_append, nest]
  · exact ho
  · exact hc

theorem append {ts us : List Token} {is js : List Item} (h : Nests ts is) (h' : Nests us js) :
    Nests (ts ++ us) (is ++ js) := by
  intro outer before rest
  rw [List.append_assoc, h, h', List.append_assoc]

theorem cons {t : Token} {ts : List Token} {is : List Item} (ho : t ≠ .opening) (hc : t ≠ .closing)
    (h : Nests ts is) : Nests (t :: ts) (.token t :: is) :=
  append (token ho hc) h

theorem enclosed {ts : List Token} {is : List Item} (h : Nests ts is) :
    Nests (.opening :: (ts ++ [.closing])) [.group is] := by
  intro outer before rest
  rw [List.cons_append, nest, List.append_assoc, h, List.singleton_append, nest, List.nil_append]

/-- tokens that are no parentheses -/
theorem flat {ts : List Token} (h : ∀ t ∈ ts, t ≠ .opening ∧ t ≠ .closing) : Nests ts (ts.map .token) := by
  induction ts with
  | nil => exact nil
  | cons t ts ih =>
    have ht := h t (by simp)
    exact cons ht.1 ht.2 (ih fun u hu => h u (List.mem_cons_of_mem _ hu))

theorem intercalate {ts : List Token} {is : List Item} (h : Nests ts is) {α : Type} (f : α → List Token)
    (g : α → List Item) (as : List α) (hfg : ∀ a ∈ as, Nests (f a) (g a)) :
    Nests (ts.intercalate (as.map f)) (is.intercalate (as.map g)) := by
  induction as with
  | nil => exact nil
  | cons a as ih =>
    have ih := ih fun b hb => hfg b (List.mem_cons_of_mem _ hb)
    cases as with
    | nil => simpa using hfg a (by simp)
    | cons b as =>
      simp only [List.map_cons, List.intercalate_cons_cons] at ih ⊢
      exact append (append (hfg a (by simp)) h) ih

theorem nest_eq {ts : List Token} {is : List Item} (h : Nests ts is) : nest [] [] ts = some is := by
  have whole := h [] [] []
  rw [List.append_nil] at whole
  simpa [nest] using whole

end Nests

/-- the items of an operand -/
def Operand.items (e : Operand) : List Item := (Lexeme.tokens e.lexemes).map .token

/-- the items of a term -/
def Term.items : Term Operand → List Item
  | plain e => e.items
  | upper e => [.token (.word "UPPER"), .group e.items]

namespace Condition

mutual

/-- the items of a condition -/
def items : Condition Operand → List Item
  | compare op a b => a.items ++ .token op.token :: b.items
  | among a b => a.items ++ [.token (.sign "="), .token (.word "ANY"), .group b.items]
  | isNull e => e.items ++ [.token (.word "IS"), .token (.word "NULL")]
  | isNotNull e => e.items ++ [.token (.word "IS"), .token (.word "NOT"), .token (.word "NULL")]
  | neg c => [.token (.word "NOT"), .group (items c)]
  | group join parts => [.group (List.intercalate [.token (.word join.keyword)] (itemsAll parts))]

def itemsAll : List (Condition Operand) → List (List Item)
  | [] => []
  | c :: cs => items c :: itemsAll cs

end

theorem itemsAll_eq (cs : List (Condition Operand)) : itemsAll cs = cs.map items := by
  induction cs with
  | nil => rfl
  | cons c cs ih => rw [itemsAll, ih, List.map_cons]

end Condition

theorem segmentToken_flat (s : String) : segmentToken s ≠ .opening ∧ segmentToken s ≠ .closing := by
  unfold segmentToken
  split <;> simp

theorem stepLexemes_flat (steps : List (String × String)) :
    ∀ t ∈ Lexeme.tokens (stepLexemes steps), t ≠ .opening ∧ t ≠ .closing := by
  induction steps with
  | nil => simp [stepLexemes]
  | cons s rest ih =>
    intro t ht
    rw [stepLexemes, List.flatMap_cons] at ht
    simp only [List.cons_append, List.nil_append, Lexeme.tokens_token, List.mem_cons] at ht
    rcases ht with rfl | rfl | ht
    · simp
    · exact segmentToken_flat s.2
    · exact ih t ht

theorem Operand.nests (e : Operand) : Nests (Lexeme.tokens e.lexemes) e.items := by
  apply Nests.flat
  cases e with
  | column n => simp [lexemes]
  | path n segments => simpa [lexemes] using stepLexemes_flat _
  | pathText n segments =>
    simp only [lexemes]
    cases segments.getLast? with
    | none => simp
    | some last => simpa using stepLexemes_flat _
  | parameter n => simp [lexemes]

theorem Term.nests (t : Term Operand) : Nests (Lexeme.tokens t.lexemes) t.items := by
  cases t with
  | plain e => exact e.nests
  | upper e => simpa [lexemes, items] using e.nests.enclosed.cons (t := .word "UPPER") (by simp) (by simp)

theorem Operator.token_flat (op : Operator) : op.token ≠ .opening ∧ op.token ≠ .closing := by
  cases op <;> simp [token]

theorem Join.nests (join : Join) : Nests (Lexeme.tokens join.lexemes) [.token (.word join.keyword)] :=
  Nests.token (by simp) (by simp)

namespace Condition

/-- conditions side by side have the items of each, the join between them -/
theorem nests_join (join : Join) (cs : List (Condition Operand))
    (h : ∀ c ∈ cs, Nests (Lexeme.tokens (lexemes c)) (items c)) :
    Nests (Lexeme.tokens (join.lexemes.intercalate (lexemesAll cs)))
      (List.intercalate [.token (.word join.keyword)] (itemsAll cs)) := by
  rw [Lexeme.tokens_intercalate, lexemesAll_eq, itemsAll_eq, List.map_map]
  exact join.nests.intercalate _ _ cs h

mutual

theorem nests (c : Condition Operand) : Nests (Lexeme.tokens (lexemes c)) (items c) := by
  cases c with
  | compare op a b =>
    have right := b.nests.cons op.token_flat.1 op.token_flat.2
    simpa [lexemes, items] using a.nests.append right
  | among a b =>
    have right := (b.nests.enclosed.cons (t := .word "ANY") (by simp) (by simp)).cons (t := .sign "=") (by simp) (by simp)
    simpa [lexemes, items] using a.nests.append right
  | isNull e =>
    have right : Nests [.word "IS", .word "NULL"] [.token (.word "IS"), .token (.word "NULL")] := Nests.flat (by simp)
    simpa [lexemes, items] using e.nests.append right
  | isNotNull e =>
    have right : Nests [.word "IS", .word "NOT", .word "NULL"]
        [.token (.word "IS"), .token (.word "NOT"), .token (.word "NULL")] := Nests.flat (by simp)
    simpa [lexemes, items] using e.nests.append right
  | neg c =>
    simpa [lexemes, items] using (nests c).enclosed.cons (t := .word "NOT") (by simp) (by simp)
  | group join parts =>
    simpa [lexemes, items] using (nests_join join parts (nestsAll parts)).enclosed

theorem nestsAll (cs : List (Condition Operand)) :
    ∀ c ∈ cs, Nests (Lexeme.tokens (lexemes c)) (items c) := by
  cases cs with
  | nil => simp
  | cons c cs =>
    rw [List.forall_mem_cons]
    exact ⟨nests c, nestsAll cs⟩

end

/-! ## Conditions read back -/

mutual

/-- a condition as it reads: what is no connective is a predicate -/
def reading : Condition Operand → Reading Predicate
  | neg c => .neg (reading c)
  | group join parts => .grouped join (readings parts)
  | compare op a b => .leaf (items (compare op a b))
  | among a b => .leaf (items (among a b))
  | isNull e => .leaf (items (isNull e))
  | isNotNull e => .leaf (items (isNotNull e))

def readings : List (Condition Operand) → List (Reading Predicate)
  | [] => []
  | c :: cs => reading c :: readings cs

end

mutual

/-- whether every group has a part -/
def isFull : Condition Operand → Bool
  | neg c => isFull c
  | group _ parts => !parts.isEmpty && allFull parts
  | _ => true

def allFull : List (Condition Operand) → Bool
  | [] => true
  | c :: cs => isFull c && allFull cs

end

theorem readings_eq (cs : List (Condition Operand)) : readings cs = cs.map reading := by
  induction cs with
  | nil => rfl
  | cons c cs ih => rw [readings, ih, List.map_cons]

end Condition

/-! ### Items without connectives -/

theorem annotated_append (is js : List Item) : annotated (is ++ js) = annotated is ++ annotated js := by
  induction is with
  | nil => rfl
  | cons i is ih => rw [List.cons_append, annotated, ih, annotated, List.cons_append]

theorem map_fst_annotated (is : List Item) : (annotated is).map Prod.fst = is := by
  induction is with
  | nil => rfl
  | cons i is ih => rw [annotated, List.map_cons, ih]

theorem isKeyword_eq_false {w : String} {i : Annotated} (h : i.1 ≠ .token (.word w)) : isKeyword w i = false := by
  unfold isKeyword
  split
  · next v _ =>
    have hv : v ≠ w := by
      rintro rfl
      exact h rfl
    simp [hv]
  · rfl

/-- items that are not AND and not OR -/
def IsSimple (is : List Item) : Prop :=
  ∀ i ∈ is, i ≠ .token (.word "AND") ∧ i ≠ .token (.word "OR")

theorem isSimple_append {is js : List Item} : IsSimple (is ++ js) ↔ IsSimple is ∧ IsSimple js :=
  List.forall_mem_append

theorem IsSimple.isKeyword {is : List Item} (h : IsSimple is) (join : Join) :
    ∀ i ∈ annotated is, isKeyword join.keyword i = false := by
  intro i hi
  have mem : i.1 ∈ is := by
    rw [← map_fst_annotated is]
    exact List.mem_map_of_mem hi
  cases join with
  | and => exact isKeyword_eq_false (h i.1 mem).1
  | or => exact isKeyword_eq_false (h i.1 mem).2

theorem stepLexemes_simple (steps : List (String × String)) (w : String) :
    .word w ∉ Lexeme.tokens (stepLexemes steps) := by
  induction steps with
  | nil => simp [stepLexemes]
  | cons s rest ih =>
    have segment : Token.word w ≠ segmentToken s.2 := by
      unfold segmentToken
      split <;> simp
    simpa [stepLexemes, segment] using ih

/-- an operand holds no words -/
theorem Operand.word_not_mem (e : Operand) (w : String) : .word w ∉ Lexeme.tokens e.lexemes := by
  cases e with
  | column n => simp [lexemes]
  | path n segments => simpa [lexemes] using stepLexemes_simple _ w
  | pathText n segments =>
    simp only [lexemes]
    cases segments.getLast? with
    | none => simp
    | some last => simpa using stepLexemes_simple _ w
  | parameter n => simp [lexemes]

theorem Operand.isSimple_items (e : Operand) : IsSimple e.items := by
  intro i hi
  obtain ⟨t, ht, rfl⟩ := List.mem_map.mp hi
  constructor
  · intro h
    injection h with h
    exact e.word_not_mem "AND" (h ▸ ht)
  · intro h
    injection h with h
    exact e.word_not_mem "OR" (h ▸ ht)

theorem Term.isSimple_items (t : Term Operand) : IsSimple t.items := by
  cases t with
  | plain e => exact e.isSimple_items
  | upper e => simp [items, IsSimple]

theorem Operator.isSimple_token (op : Operator) : IsSimple [.token op.token] := by
  cases op <;> simp [IsSimple, token]

/-- an operand begins with a token that is no word -/
theorem Operand.items_cons (e : Operand) : ∃ t rest, e.items = .token t :: rest ∧ t ≠ .word "NOT" := by
  cases e with
  | column n => exact ⟨_, _, rfl, by simp⟩
  | path n segments => exact ⟨_, _, rfl, by simp⟩
  | pathText n segments =>
    simp only [items, lexemes]
    cases segments.getLast? <;> exact ⟨_, _, rfl, by simp⟩
  | parameter n => exact ⟨_, _, rfl, by simp⟩

theorem Term.items_cons (t : Term Operand) : ∃ u rest, t.items = .token u :: rest ∧ u ≠ .word "NOT" := by
  cases t with
  | plain e => exact e.items_cons
  | upper e => exact ⟨_, _, rfl, by simp⟩

theorem Condition.isSimple_items (c : Condition Operand) : IsSimple c.items := by
  cases c with
  | compare op a b =>
    have whole := isSimple_append.mpr ⟨a.isSimple_items, isSimple_append.mpr ⟨op.isSimple_token, b.isSimple_items⟩⟩
    simpa [items] using whole
  | among a b => exact isSimple_append.mpr ⟨a.isSimple_items, by simp [IsSimple]⟩
  | isNull e => exact isSimple_append.mpr ⟨e.isSimple_items, by simp [IsSimple]⟩
  | isNotNull e => exact isSimple_append.mpr ⟨e.isSimple_items, by simp [IsSimple]⟩
  | neg c => simp [items, IsSimple]
  | group join parts => simp [items, IsSimple]

/-! ### Reading items -/

/-- items that begin with a token other than NOT are a predicate -/
theorem readFactor_token {t : Token} (h : t ≠ .word "NOT") (is : List Item) :
    readFactor (annotated (.token t :: is)) = some (.leaf (.token t :: is)) := by
  have first : isKeyword "NOT" (.token t, Item.inner (.token t)) = false := isKeyword_eq_false (by simpa using h)
  rw [annotated, readFactor, if_neg (by simp [first]), List.map_cons, map_fst_annotated]
  simp

theorem readTerm_simple {is : List Item} (h : IsSimple is) :
    readTerm (annotated is) = readFactor (annotated is) := by
  have whole := List.splitOnP_eq_singleton (h.isKeyword .and)
  rw [Join.keyword] at whole
  rw [readTerm, whole]
  cases hr : readFactor (annotated is) <;> simp [hr]

theorem readTerms_simple {is : List Item} (h : IsSimple is) :
    readTerms (annotated is) = readFactor (annotated is) := by
  have whole := List.splitOnP_eq_singleton (h.isKeyword .or)
  rw [Join.keyword] at whole
  rw [readTerms, whole]
  cases hr : readFactor (annotated is) <;> simp [readTerm_simple h, hr]

/-- simple items under a join fall apart at its keyword -/
theorem splitOnP_join (join : Join) {iss : List (List Item)} (hne : iss ≠ []) (h : ∀ is ∈ iss, IsSimple is) :
    (annotated (List.intercalate [.token (.word join.keyword)] iss)).splitOnP (isKeyword join.keyword) =
      iss.map annotated := by
  induction iss with
  | nil => exact absurd rfl hne
  | cons is iss ih =>
    have simple := (h is (by simp)).isKeyword join
    cases iss with
    | nil => simpa using List.splitOnP_eq_singleton simple
    | cons js iss =>
      have ih := ih (by simp) fun ks hk => h ks (List.mem_cons_of_mem _ hk)
      have keyword : isKeyword join.keyword (.token (.word join.keyword), none) = true := by simp [isKeyword]
      rw [List.intercalate_cons_cons, List.append_assoc, List.singleton_append, annotated_append, annotated, Item.inner,
        List.splitOnP_append_cons_of_forall_mem simple _ keyword, ih]
      rfl

/-- no OR stands between parts under AND -/
theorem isKeyword_or_and {iss : List (List Item)} (h : ∀ is ∈ iss, IsSimple is) :
    ∀ i ∈ annotated (List.intercalate [.token (.word Join.and.keyword)] iss), isKeyword Join.or.keyword i = false := by
  induction iss with
  | nil => simp [annotated]
  | cons is iss ih =>
    have simple := (h is (by simp)).isKeyword .or
    cases iss with
    | nil => simpa using simple
    | cons js iss =>
      have ih := ih fun ks hk => h ks (List.mem_cons_of_mem _ hk)
      rw [List.intercalate_cons_cons, List.append_assoc, List.singleton_append, annotated_append, annotated]
      intro i hi
      rcases List.mem_append.mp hi with hi | hi
      · exact simple i hi
      · rcases List.mem_cons.mp hi with rfl | hi
        · exact isKeyword_eq_false (by simp [Join.keyword])
        · exact ih i hi

namespace Condition

theorem isSimple_map_items (cs : List (Condition Operand)) : ∀ is ∈ cs.map items, IsSimple is := by
  intro is hi
  obtain ⟨c, _, rfl⟩ := List.mem_map.mp hi
  exact c.isSimple_items

theorem mapM_readFactor {cs : List (Condition Operand)}
    (h : ∀ c ∈ cs, readFactor (annotated c.items) = some c.reading) :
    ((cs.map items).map annotated).mapM readFactor = some (cs.map reading) := by
  rw [List.map_map]
  exact mapM_map_some h

/-- each part alone is a term -/
theorem mapM_readTerm (cs : List (Condition Operand)) :
    ((cs.map items).map annotated).mapM readTerm = ((cs.map items).map annotated).mapM readFactor := by
  induction cs with
  | nil => rfl
  | cons c cs ih =>
    rw [List.map_cons, List.map_cons, List.mapM_cons, List.mapM_cons, ih, readTerm_simple c.isSimple_items]

/-- parts under a join are read one by one -/
theorem readTerms_join (join : Join) {cs : List (Condition Operand)} (hne : cs ≠ [])
    (h : ∀ c ∈ cs, readFactor (annotated c.items) = some c.reading) :
    readTerms (annotated (List.intercalate [.token (.word join.keyword)] (cs.map items))) =
      some (.grouped join (cs.map reading)) := by
  have simple := isSimple_map_items cs
  have split := splitOnP_join join (by simpa using hne) simple
  have parts := mapM_readFactor h
  cases join with
  | and =>
    have whole := List.splitOnP_eq_singleton (isKeyword_or_and simple)
    simp only [Join.keyword] at whole split ⊢
    have term : readTerm (annotated (List.intercalate [.token (.word "AND")] (cs.map items))) =
        some (.grouped .and (cs.map reading)) := by
      rw [readTerm, split, parts, Option.map_some]
    rw [readTerms, whole, List.mapM_cons, term]
    rfl
  | or =>
    simp only [Join.keyword] at split ⊢
    rw [readTerms, split, mapM_readTerm, parts, Option.map_some]

mutual

theorem readFactor_items (c : Condition Operand) (h : c.isFull = true) :
    readFactor (annotated c.items) = some c.reading := by
  cases c with
  | compare op a b =>
    obtain ⟨t, rest, ha, ht⟩ := a.items_cons
    simpa [items, reading, ha] using readFactor_token ht _
  | among a b =>
    obtain ⟨t, rest, ha, ht⟩ := a.items_cons
    simpa [items, reading, ha] using readFactor_token ht _
  | isNull e =>
    obtain ⟨t, rest, he, ht⟩ := e.items_cons
    simpa [items, reading, he] using readFactor_token ht _
  | isNotNull e =>
    obtain ⟨t, rest, he, ht⟩ := e.items_cons
    simpa [items, reading, he] using readFactor_token ht _
  | neg c =>
    have inner := readFactor_items c h
    rw [← readTerms_simple c.isSimple_items] at inner
    simp [items, annotated, Item.inner, readFactor, isKeyword, inner, reading]
  | group join parts =>
    simp only [isFull, Bool.and_eq_true, Bool.not_eq_true', List.isEmpty_eq_false_iff] at h
    have inner := readTerms_join join h.1 (readFactor_itemsAll parts h.2)
    simp [items, itemsAll_eq, annotated, Item.inner, readFactor, inner, reading, readings_eq]

theorem readFactor_itemsAll (cs : List (Condition Operand)) (h : allFull cs = true) :
    ∀ c ∈ cs, readFactor (annotated c.items) = some c.reading := by
  cases cs with
  | nil => simp
  | cons c cs =>
    simp only [allFull, Bool.and_eq_true] at h
    rw [List.forall_mem_cons]
    exact ⟨readFactor_items c h.1, readFactor_itemsAll cs h.2⟩

end

/-- **The text of a condition reads as the condition.** -/
theorem ofText_text {c : Condition Operand} (h : c.isFull = true) :
    Reading.ofText? (c.text Operand.text) = some c.reading := by
  have inner := readFactor_items c h
  rw [← readTerms_simple c.isSimple_items] at inner
  simp [Reading.ofText?, scan_text, (nests c).nest_eq, inner]

/-- **The text of conditions side by side reads as their conjunction.** -/
theorem ofText_listText {cs : List (Condition Operand)} (hne : cs ≠ []) (h : ∀ c ∈ cs, c.isFull = true) :
    Reading.ofText? (listText Operand.text cs) = some (.grouped .and (cs.map reading)) := by
  have inner := readTerms_join .and hne fun c hc => readFactor_items c (h c hc)
  have nests := nests_join .and cs fun c _ => nests c
  rw [← itemsAll_eq] at inner
  simp [Reading.ofText?, scan_listText, listLexemes, nests.nest_eq, inner]

end Condition

end Tabula.Sql
