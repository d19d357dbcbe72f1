import Tabula.Proofs.Sql.Lexeme
import Tabula.Sql.Statement
/-!
# Statements, token by token

`Condition.lexemes` and `Statement.lexemes` give the tokens of a statement with the blanks between them.  Written one
behind the other they are the text of the statement, so the scanner reads the text into just these tokens:
`Condition.scan_text`, `Condition.scan_listText` and `Statement.scan_text`.
-/

namespace Tabula.Sql

namespace Lexeme

/-- a keyword -/
abbrev word (w : String) : Lexeme := token (.word w)

abbrev name (n : String) : Lexeme := token (.identifier n)

abbrev sign (s : String) : Lexeme := token (.sign s)

abbrev opening : Lexeme := token .opening

abbrev closing : Lexeme := token .closing

/-- a comma and a blank -/
def comma : List Lexeme := [token .comma, blank]

/-- names, separated by commas -/
def names (ns : List String) : List Lexeme := comma.intercalate (ns.map fun n => [name n])

/-- parts that may be missing, each behind a blank -/
def clauses : List (Option (List Lexeme)) → List Lexeme
  | [] => []
  | none :: rest => clauses rest
  | some ls :: rest => blank :: (ls ++ clauses rest)

end Lexeme

open Lexeme (word name sign opening closing)

/-- the words of the statement language -/
def keywords : List String :=
  ["AND", "OR", "NOT", "IS", "NULL", "ANY", "LIKE", "UPPER", "SELECT", "DISTINCT", "FROM", "WHERE", "ORDER", "BY",
    "ASC", "DESC", "LIMIT", "OFFSET", "COUNT", "AS", "EXPLAIN", "FORMAT", "JSON", "INSERT", "INTO", "DEFAULT",
    "VALUES", "RETURNING", "UPDATE", "SET", "DELETE"]

/-- its signs -/
def signs : List String :=
  ["->", "->>", "#>>", "=", "<>", ">", ">=", "<", "<=", "?", "?&", "?|", "@>", "<@", "*"]

@[simp] theorem isSound_keyword {w : String} (h : w ∈ keywords) : (Token.word w).isSound = true := by
  have all : ∀ w ∈ keywords, (Token.word w).isSound = true := by decide +kernel
  exact all w h

@[simp] theorem isSound_sign {s : String} (h : s ∈ signs) : (Token.sign s).isSound = true := by
  have all : ∀ s ∈ signs, (Token.sign s).isSound = true := by decide +kernel
  exact all s h

/-! ## Operands -/

/-- the token of one step of a path -/
def segmentToken (s : String) : Token :=
  if !s.isEmpty && s.toList.all Char.isDigit then .number s else .literal s

/-- segments of a path behind their arrows -/
def stepLexemes (steps : List (String × String)) : List Lexeme :=
  steps.flatMap fun s => [sign s.1, .token (segmentToken s.2)]

/-- segments behind the arrow to a document -/
def documentSteps (segments : List String) : List (String × String) := segments.map ("->", ·)

/-- an operand, token by token -/
def Operand.lexemes : Operand → List Lexeme
  | column n => [name n]
  | path n segments => name n :: stepLexemes (documentSteps segments)
  | pathText n segments =>
    match segments.getLast? with
    | none => [name n, .blank, sign "#>>", .blank, .token (.literal "\x7b\x7d")]
    | some last => name n :: stepLexemes (documentSteps segments.dropLast ++ [("->>", last)])
  | parameter n => [.token (.parameter n)]

/-- a term, token by token -/
def Term.lexemes : Term Operand → List Lexeme
  | plain e => e.lexemes
  | upper e => word "UPPER" :: opening :: (e.lexemes ++ [closing])

/-! ### Their texts -/

theorem chars_segmentToken (s : String) : (segmentToken s).chars = (segmentText s).toList := by
  unfold segmentToken segmentText
  split <;> rfl

theorem chars_documentSteps (segments : List String) :
    (stepLexemes (documentSteps segments)).flatMap Lexeme.chars = (stepsText segments).toList := by
  induction segments with
  | nil => rfl
  | cons s rest ih =>
    simp only [stepLexemes, documentSteps, stepsText, String.toList_join, List.map_cons, List.flatMap_cons,
      List.flatMap_append] at ih ⊢
    simp [ih, Lexeme.chars, Token.chars, ← chars_segmentToken]

theorem stepLexemes_append (a b : List (String × String)) : stepLexemes (a ++ b) = stepLexemes a ++ stepLexemes b :=
  List.flatMap_append

theorem Operand.chars_lexemes (e : Operand) : e.lexemes.flatMap Lexeme.chars = e.text.toList := by
  cases e with
  | column n => simp [lexemes, text, Lexeme.chars, Token.chars]
  | path n segments => simp [lexemes, text, Lexeme.chars, Token.chars, chars_documentSteps]
  | pathText n segments =>
    simp only [lexemes, text]
    cases segments.getLast? with
    | none =>
      have braces : (literal "\x7b\x7d").toList = ['\'', '\x7b', '\x7d', '\''] := by decide
      simp [Lexeme.chars, Token.chars, braces]
    | some last =>
      simp only [stepLexemes_append, List.flatMap_cons, List.flatMap_append, chars_documentSteps]
      simp [stepLexemes, Lexeme.chars, Token.chars, ← chars_segmentToken]
  | parameter n => simp [lexemes, text, Lexeme.chars, Token.chars]

theorem Term.chars_lexemes (t : Term Operand) :
    t.lexemes.flatMap Lexeme.chars = (t.text Operand.text).toList := by
  cases t <;> simp [lexemes, text, Lexeme.chars, Token.chars, Operand.chars_lexemes]

/-! ### They can be written -/

theorem isSound_segmentToken (s : String) : (segmentToken s).isSound = true := by
  unfold segmentToken
  split
  · next digits => simpa [Token.isSound] using digits
  · rfl

theorem segmentToken_endsBefore_sign (s : String) : (segmentToken s).endsBefore .sign = true := by
  unfold segmentToken
  split <;> rfl

/-- an arrow meets the segment behind it, be it a number or a literal -/
theorem sign_endsBefore_segmentToken (arrow s : String) :
    (Token.sign arrow).endsBefore (segmentToken s).firstClass = true := by
  unfold segmentToken
  split <;> rfl

theorem written_steps {a : Token} (ha : a.isSound = true) (hs : a.endsBefore .sign = true)
    {steps : List (String × String)} (h : ∀ s ∈ steps, (Token.sign s.1).isSound = true) :
    Lexeme.Written (.token a :: stepLexemes steps) := by
  induction steps generalizing a with
  | nil => exact (Lexeme.written_singleton a).mpr ha
  | cons s rest ih =>
    have arrow := h s (by simp)
    have ih := ih (isSound_segmentToken s.2) (segmentToken_endsBefore_sign s.2)
      (fun t ht => h t (List.mem_cons_of_mem _ ht))
    refine (Lexeme.written_cons_cons ..).mpr ⟨ha, hs, ?_⟩
    exact (Lexeme.written_cons_cons ..).mpr ⟨arrow, sign_endsBefore_segmentToken s.1 s.2, ih⟩

theorem isSound_documentSteps (segments : List String) :
    ∀ s ∈ documentSteps segments, (Token.sign s.1).isSound = true := by
  intro s hs
  obtain ⟨segment, _, rfl⟩ := List.mem_map.mp hs
  exact isSound_sign (s := "->") (by decide)

theorem Operand.written_lexemes (e : Operand) : Lexeme.Written e.lexemes := by
  cases e with
  | column n => exact (Lexeme.written_singleton _).mpr rfl
  | path n segments => exact written_steps rfl rfl (isSound_documentSteps segments)
  | pathText n segments =>
    simp only [lexemes]
    cases segments.getLast? with
    | none =>
      simp (disch := decide)
    | some last =>
      refine written_steps rfl rfl fun s hs => ?_
      rcases List.mem_append.mp hs with hs | hs
      · exact isSound_documentSteps _ s hs
      · rw [List.mem_singleton.mp hs]
        exact isSound_sign (s := "->>") (by decide)
  | parameter n => exact (Lexeme.written_singleton _).mpr rfl

theorem Term.written_lexemes (t : Term Operand) : Lexeme.Written t.lexemes := by
  cases t with
  | plain e => exact e.written_lexemes
  | upper e =>
    simp (disch := decide) [lexemes, e.written_lexemes]

/-! ## Conditions -/

/-- an operator: a sign or a word -/
def Operator.token : Operator → Token
  | like => .word "LIKE"
  | op => .sign op.sign

/-- a keyword between blanks -/
def Join.lexemes (join : Join) : List Lexeme := [.blank, word join.keyword, .blank]

theorem Operator.chars_token (op : Operator) : op.token.chars = op.sign.toList := by
  cases op <;> rfl

theorem Join.chars_lexemes (join : Join) :
    join.lexemes.flatMap Lexeme.chars = (" " ++ join.keyword ++ " ").toList := by
  simp [Join.lexemes, Lexeme.chars, Token.chars]

theorem Operator.isSound_token (op : Operator) : op.token.isSound = true := by
  cases op <;> decide

theorem Join.isSound_keyword (join : Join) : (Token.word join.keyword).isSound = true := by
  cases join <;> decide

namespace Condition

mutual

/-- a condition, token by token -/
def lexemes : Condition Operand → List Lexeme
  | compare op a b => a.lexemes ++ .blank :: .token op.token :: .blank :: b.lexemes
  | among a b => a.lexemes ++ .blank :: sign "=" :: .blank :: word "ANY" :: opening :: (b.lexemes ++ [closing])
  | isNull e => e.lexemes ++ [.blank, word "IS", .blank, word "NULL"]
  | isNotNull e => e.lexemes ++ [.blank, word "IS", .blank, word "NOT", .blank, word "NULL"]
  | neg c => word "NOT" :: .blank :: opening :: (lexemes c ++ [closing])
  | group join parts => opening :: (join.lexemes.intercalate (lexemesAll parts) ++ [closing])

def lexemesAll : List (Condition Operand) → List (List Lexeme)
  | [] => []
  | c :: cs => lexemes c :: lexemesAll cs

end

/-- conditions side by side, token by token -/
def listLexemes (cs : List (Condition Operand)) : List Lexeme := Join.and.lexemes.intercalate (lexemesAll cs)

theorem lexemesAll_eq (cs : List (Condition Operand)) : lexemesAll cs = cs.map lexemes := by
  induction cs with
  | nil => rfl
  | cons c cs ih => rw [lexemesAll, ih, List.map_cons]

/-! ### Their texts -/

mutual

theorem chars_lexemes (c : Condition Operand) : (lexemes c).flatMap Lexeme.chars = (text Operand.text c).toList := by
  cases c with
  | compare op a b =>
    simp [lexemes, text, Lexeme.chars, Term.chars_lexemes, Operator.chars_token]
  | among a b => simp [lexemes, text, Lexeme.chars, Token.chars, Operand.chars_lexemes]
  | isNull e => simp [lexemes, text, Lexeme.chars, Token.chars, Operand.chars_lexemes]
  | isNotNull e => simp [lexemes, text, Lexeme.chars, Token.chars, Operand.chars_lexemes]
  | neg c => simp [lexemes, text, Lexeme.chars, Token.chars, chars_lexemes c]
  | group join parts =>
    simp [lexemes, text, Lexeme.chars, Token.chars, Lexeme.chars_intercalate, Join.chars_lexemes,
      chars_lexemesAll parts]

theorem chars_lexemesAll (cs : List (Condition Operand)) :
    (lexemesAll cs).map (fun ls => ls.flatMap Lexeme.chars) = (texts Operand.text cs).map String.toList := by
  cases cs with
  | nil => rfl
  | cons c cs => simp only [lexemesAll, texts, List.map_cons, chars_lexemes c, chars_lexemesAll cs]

end

theorem text_lexemes (c : Condition Operand) : Lexeme.text (lexemes c) = text Operand.text c :=
  Lexeme.text_eq (chars_lexemes c)

theorem chars_listLexemes (cs : List (Condition Operand)) :
    (listLexemes cs).flatMap Lexeme.chars = (listText Operand.text cs).toList := by
  simp [listLexemes, listText, Lexeme.chars_intercalate, Join.chars_lexemes, chars_lexemesAll, Join.keyword]

/-! ### They can be written -/

theorem written_join (join : Join) {lss : List (List Lexeme)} (h : ∀ ls ∈ lss, Lexeme.Written ls) :
    Lexeme.Written (join.lexemes.intercalate lss) := by
  refine Lexeme.written_intercalate ?_ h
  intro ls ms hl hm
  simp [Join.lexemes, Join.isSound_keyword, hl, hm]

mutual

theorem written_lexemes (c : Condition Operand) : Lexeme.Written (lexemes c) := by
  cases c with
  | compare op a b => simp [lexemes, a.written_lexemes, b.written_lexemes, op.isSound_token]
  | among a b => simp (disch := decide) [lexemes, a.written_lexemes, b.written_lexemes]
  | isNull e => simp (disch := decide) [lexemes, e.written_lexemes]
  | isNotNull e => simp (disch := decide) [lexemes, e.written_lexemes]
  | neg c => simp (disch := decide) [lexemes, written_lexemes c]
  | group join parts => simp [lexemes, written_join join (written_lexemesAll parts)]

theorem written_lexemesAll (cs : List (Condition Operand)) : ∀ ls ∈ lexemesAll cs, Lexeme.Written ls := by
  cases cs with
  | nil => simp [lexemesAll]
  | cons c cs =>
    rw [lexemesAll, List.forall_mem_cons]
    exact ⟨written_lexemes c, written_lexemesAll cs⟩

end

/-- the tokens of a condition -/
theorem scan_text (c : Condition Operand) : scan (text Operand.text c) = some (Lexeme.tokens (lexemes c)) := by
  rw [← text_lexemes, Lexeme.scan_text (written_lexemes c)]

theorem written_listLexemes (cs : List (Condition Operand)) : Lexeme.Written (listLexemes cs) :=
  written_join .and (written_lexemesAll cs)

/-- the tokens of conditions side by side -/
theorem scan_listText (cs : List (Condition Operand)) :
    scan (listText Operand.text cs) = some (Lexeme.tokens (listLexemes cs)) := by
  rw [← Lexeme.text_eq (chars_listLexemes cs), Lexeme.scan_text (written_listLexemes cs)]

end Condition

/-! ## Statements -/

/-- a sort key, token by token -/
def SortKey.lexemes (k : SortKey) : List Lexeme :=
  k.operand.lexemes ++ [.blank, word (if k.descending then "DESC" else "ASC")]

/-- the clause that restricts rows, token by token -/
def Restriction.clause? (rows : Restriction) : Option (List Lexeme) :=
  rows.map fun cs => word "WHERE" :: .blank :: Condition.listLexemes cs

/-- a clause of one keyword and a number -/
def countClause? (keyword : String) (n : Option Nat) : Option (List Lexeme) :=
  n.map fun n => [word keyword, .blank, .token (.number (toString n))]

/-- the clause that orders rows, token by token -/
def orderClause (keys : List SortKey) : List Lexeme :=
  word "ORDER" :: .blank :: word "BY" :: .blank :: Lexeme.comma.intercalate (keys.map SortKey.lexemes)

/-- a selection, token by token -/
def Select.lexemes (s : Select) : List Lexeme :=
  word "SELECT" :: .blank :: ((if s.distinct then [word "DISTINCT", .blank] else []) ++ Lexeme.names s.columns
    ++ .blank :: word "FROM" :: .blank :: name s.table ::
      Lexeme.clauses [Restriction.clause? s.rows, s.order.map orderClause, countClause? "LIMIT" s.limit,
        countClause? "OFFSET" s.offset])

/-- a column set to a parameter, token by token -/
def assignmentLexemes (a : String × Nat) : List Lexeme :=
  [name a.1, .blank, sign "=", .blank, .token (.parameter a.2)]

/-- a statement, token by token -/
def Statement.lexemes : Statement → List Lexeme
  | select s => s.lexemes
  | count table rows =>
    [word "SELECT", .blank, word "COUNT", opening, sign "*", closing, .blank, word "FROM", .blank, name table]
      ++ Lexeme.clauses [Restriction.clause? rows]
  | countOf s =>
    word "SELECT" :: .blank :: word "COUNT" :: opening :: sign "*" :: closing :: .blank :: word "FROM" :: .blank ::
      opening :: (s.lexemes ++ [closing, .blank, word "AS", .blank, name "_sub"])
  | explain s =>
    word "EXPLAIN" :: .blank :: opening :: word "FORMAT" :: .blank :: word "JSON" :: closing :: .blank :: s.lexemes
  | insert table columns returning =>
    [word "INSERT", .blank, word "INTO", .blank, name table]
      ++ (if columns.isEmpty then [.blank, word "DEFAULT", .blank, word "VALUES"]
        else .blank :: opening :: (Lexeme.names columns ++ closing :: .blank :: word "VALUES" :: .blank :: opening ::
          (Lexeme.comma.intercalate ((List.range columns.length).map fun i => [.token (.parameter (i + 1))])
            ++ [closing])))
      ++ Lexeme.clauses [if returning.isEmpty then none
        else some (word "RETURNING" :: .blank :: Lexeme.names returning)]
  | update table assignments rows =>
    word "UPDATE" :: .blank :: name table :: .blank :: word "SET" :: .blank ::
      (Lexeme.comma.intercalate (assignments.map assignmentLexemes) ++ Lexeme.clauses [Restriction.clause? rows])
  | delete table rows =>
    [word "DELETE", .blank, word "FROM", .blank, name table] ++ Lexeme.clauses [Restriction.clause? rows]

/-! ### Their texts -/

theorem Lexeme.chars_comma : comma.flatMap chars = ", ".toList := rfl

theorem Lexeme.chars_list {α : Type} (f : α → List Lexeme) (g : α → String) (h : ∀ a, (f a).flatMap chars = (g a).toList)
    (as : List α) : (comma.intercalate (as.map f)).flatMap chars = (", ".intercalate (as.map g)).toList := by
  simp [chars_intercalate, chars_comma, h, Function.comp_def]

theorem Lexeme.chars_names (ns : List String) : (names ns).flatMap chars = (identifiers ns).toList :=
  chars_list _ _ (fun n => by simp [chars, Token.chars]) ns

theorem SortKey.chars_lexemes (k : SortKey) : k.lexemes.flatMap Lexeme.chars = k.text.toList := by
  cases h : k.descending <;> simp [lexemes, text, Lexeme.chars, Token.chars, Operand.chars_lexemes, h]

theorem chars_assignmentLexemes (a : String × Nat) :
    (assignmentLexemes a).flatMap Lexeme.chars = (assignmentText a).toList := by
  simp [assignmentLexemes, assignmentText, Operand.text, Lexeme.chars, Token.chars]

theorem Restriction.chars_clause (rows : Restriction) (rest : List (Option (List Lexeme))) :
    (Lexeme.clauses (Restriction.clause? rows :: rest)).flatMap Lexeme.chars =
      (Restriction.text rows).toList ++ (Lexeme.clauses rest).flatMap Lexeme.chars := by
  cases rows with
  | none => rfl
  | some cs => simp [clause?, text, Lexeme.clauses, Lexeme.chars, Token.chars, Condition.chars_listLexemes]

theorem Select.chars_lexemes (s : Select) : s.lexemes.flatMap Lexeme.chars = s.text.toList := by
  have order := Lexeme.chars_list SortKey.lexemes SortKey.text SortKey.chars_lexemes
  obtain ⟨distinct, columns, table, rows, keys, limit, offset⟩ := s
  cases distinct <;> cases keys <;> cases limit <;> cases offset <;>
    simp [lexemes, text, Restriction.chars_clause, orderClause, countClause?, Lexeme.clauses, Lexeme.chars,
      Token.chars, Lexeme.chars_names, order]

theorem Statement.chars_lexemes (s : Statement) : s.lexemes.flatMap Lexeme.chars = s.text.toList := by
  unfold text
  cases s with
  | select s => exact s.chars_lexemes
  | count table rows => simp [lexemes, Restriction.chars_clause, Lexeme.clauses, Lexeme.chars, Token.chars]
  | countOf s =>
    have sub : (Sql.identifier "_sub").toList = "\"_sub\"".toList := by simp [Sql.identifier, enclosed, doubled]
    simp [lexemes, s.chars_lexemes, Lexeme.chars, Token.chars, sub]
  | explain s => simp [lexemes, s.chars_lexemes, Lexeme.chars, Token.chars]
  | insert table columns returning =>
    have values := Lexeme.chars_list (fun i => [.token (.parameter (i + 1))])
      (fun i => (Operand.parameter (i + 1)).text) (fun i => (Operand.parameter (i + 1)).chars_lexemes)
      (List.range columns.length)
    by_cases hc : columns.isEmpty <;> by_cases hr : returning.isEmpty <;>
      simp [lexemes, placeholders, Lexeme.clauses, Lexeme.chars, Token.chars, Lexeme.chars_names, hc, hr, values]
  | update table assignments rows =>
    have sets := Lexeme.chars_list assignmentLexemes assignmentText chars_assignmentLexemes assignments
    simp [lexemes, Restriction.chars_clause, Lexeme.clauses, Lexeme.chars, Token.chars, sets]
  | delete table rows => simp [lexemes, Restriction.chars_clause, Lexeme.clauses, Lexeme.chars, Token.chars]

/-! ### They can be written -/

/-- parts behind blanks can follow everything -/
theorem Lexeme.written_append_clauses (ls : List Lexeme) (parts : List (Option (List Lexeme))) :
    Written (ls ++ clauses parts) ↔ Written ls ∧ ∀ part ∈ parts, ∀ ms, part = some ms → Written ms := by
  induction parts generalizing ls with
  | nil => simp [clauses]
  | cons part rest ih =>
    cases part with
    | none => simp [clauses, ih]
    | some ms => simp [clauses, ih]

theorem Lexeme.written_clauses (parts : List (Option (List Lexeme))) :
    Written (clauses parts) ↔ ∀ part ∈ parts, ∀ ms, part = some ms → Written ms := by
  simpa using written_append_clauses [] parts

theorem Lexeme.written_token_clauses (t : Token) (parts : List (Option (List Lexeme))) :
    Written (token t :: clauses parts) ↔ t.isSound = true ∧ ∀ part ∈ parts, ∀ ms, part = some ms → Written ms := by
  simpa using written_append_clauses [token t] parts

theorem Lexeme.written_list {α : Type} {f : α → List Lexeme} (h : ∀ a, Written (f a)) (as : List α) :
    Written (comma.intercalate (as.map f)) := by
  refine written_intercalate ?_ fun ls hl => ?_
  · intro ls ms hl hm
    simp [comma, hl, hm]
  · obtain ⟨a, _, rfl⟩ := List.mem_map.mp hl
    exact h a

theorem Lexeme.written_names (ns : List String) : Written (names ns) := written_list (by simp) ns

theorem SortKey.written_lexemes (k : SortKey) : Lexeme.Written k.lexemes := by
  cases h : k.descending <;> simp (disch := decide) [lexemes, k.operand.written_lexemes, h]

theorem written_assignmentLexemes (a : String × Nat) : Lexeme.Written (assignmentLexemes a) := by
  simp (disch := decide) [assignmentLexemes]

theorem Restriction.written_clause (rows : Restriction) :
    ∀ ls, Restriction.clause? rows = some ls → Lexeme.Written ls := by
  cases rows with
  | none => simp [clause?]
  | some cs => simp (disch := decide) [clause?, Condition.written_listLexemes]

theorem isSound_repr (n : Nat) : (Token.number n.repr).isSound = true := by
  have digits : (Nat.toDigits 10 n).all Char.isDigit = true :=
    List.all_eq_true.mpr fun c hc => Nat.isDigit_of_mem_toDigits (by decide) (by decide) hc
  simp [Token.isSound, Nat.toList_repr, Nat.toDigits_ne_nil, digits]

theorem written_countClause (keyword : String) (h : keyword ∈ keywords) (n : Option Nat) :
    ∀ ls, countClause? keyword n = some ls → Lexeme.Written ls := by
  cases n <;> simp [countClause?, isSound_keyword h, isSound_repr]

theorem written_orderClause (keys : List SortKey) : Lexeme.Written (orderClause keys) := by
  have order := Lexeme.written_list SortKey.written_lexemes keys
  simp (disch := decide) [orderClause, order]

theorem Select.written_lexemes (s : Select) : Lexeme.Written s.lexemes := by
  have rows := Restriction.written_clause s.rows
  have limit := written_countClause "LIMIT" (by decide) s.limit
  have offset := written_countClause "OFFSET" (by decide) s.offset
  have columns := Lexeme.written_names s.columns
  unfold lexemes
  cases s.distinct <;>
    simpa (disch := decide) [Lexeme.written_token_clauses, columns, written_orderClause]
      using And.intro rows (And.intro limit offset)

theorem Statement.written_lexemes (s : Statement) : Lexeme.Written s.lexemes := by
  cases s with
  | select s => exact s.written_lexemes
  | count table rows =>
    simpa (disch := decide) [lexemes, Lexeme.written_token_clauses] using Restriction.written_clause rows
  | countOf s => simp (disch := decide) [lexemes, s.written_lexemes]
  | explain s => simp (disch := decide) [lexemes, s.written_lexemes]
  | insert table columns returning =>
    have values := Lexeme.written_list (f := fun i => [.token (.parameter (i + 1))]) (by simp)
      (List.range columns.length)
    by_cases hc : columns.isEmpty <;> by_cases hr : returning.isEmpty <;>
      simp (disch := decide) [lexemes, Lexeme.written_clauses, Lexeme.written_token_clauses, Lexeme.written_names,
        hc, hr, values]
  | update table assignments rows =>
    have sets := Lexeme.written_list written_assignmentLexemes assignments
    simpa (disch := decide) [lexemes, Lexeme.written_append_clauses, sets] using Restriction.written_clause rows
  | delete table rows =>
    simpa (disch := decide) [lexemes, Lexeme.written_token_clauses] using Restriction.written_clause rows

/-- **The text of a statement is scanned into its tokens.** -/
theorem Statement.scan_text (s : Statement) : scan s.text = some (Lexeme.tokens s.lexemes) := by
  rw [← Lexeme.text_eq s.chars_lexemes, Lexeme.scan_text s.written_lexemes]

end Tabula.Sql
