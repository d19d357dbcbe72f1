import Tabula.Proofs.Postgres.Encoding
import Tabula.Proofs.Sql.Placeholders
/-!
# What placeholders are expected to hold

A server infers the type of a placeholder from its place: that of the column that it is written to or compared with, an
array of it behind `ANY`, and what an operator asks for on its right.  `Statement.expected` lists the placeholders of
a statement with these types, `Binds` says that values can be bound to them one after the other.
-/

namespace Tabula.Sql

open Postgres (ColumnType Parameter.Encodes)

/-- placeholders by number, with the types that they are expected to hold, if that is settled -/
abbrev Expected := List (Nat × Option ColumnType)

variable (columns : String → Option ColumnType)

/-! ## The types of placeholders -/

/-- the type of an operand, given those of the columns -/
def Operand.type? : Operand → Option ColumnType
  | column name => columns name
  | path .. => some .jsonb
  | pathText .. => some .text
  | parameter _ => none

/-- the type of a term -/
def Term.type? : Term Operand → Option ColumnType
  | plain e => e.type? columns
  | upper _ => some .text

/-- the placeholder of an operand where a type is expected -/
def Operand.expected (type : Option ColumnType) (e : Operand) : Expected := e.parameters.map (·, type)

/-- the placeholder of a term; capitals are made of text -/
def Term.expected (type : Option ColumnType) : Term Operand → Expected
  | plain e => e.expected type
  | upper e => e.expected (some .text)

/-- the type that an operator expects on its right -/
def Operator.right (left : Option ColumnType) : Operator → Option ColumnType
  | like | hasKey => some .text
  | hasKeys | hasAnyKey => some (.array .text)
  | _ => left

namespace Condition

mutual

/-- the placeholders of a condition; on the left of an operator nothing is settled -/
def expected : Condition Operand → Expected
  | compare op a b => a.expected none ++ b.expected (op.right (a.type? columns))
  | among a b => a.expected none ++ b.expected ((a.type? columns).map .array)
  | isNull e | isNotNull e => e.expected none
  | neg c => expected c
  | group _ parts => expectedAll parts

def expectedAll : List (Condition Operand) → Expected
  | [] => []
  | c :: cs => expected c ++ expectedAll cs

end

theorem expectedAll_eq (cs : List (Condition Operand)) : expectedAll columns cs = cs.flatMap (expected columns) := by
  induction cs with
  | nil => rfl
  | cons c cs ih => rw [expectedAll, ih, List.flatMap_cons]

end Condition

/-- the placeholders of a restriction -/
def Restriction.expected (rows : Restriction) : Expected := (rows.getD []).flatMap (Condition.expected columns)

/-- the placeholders of a selection -/
def Select.expected (s : Select) : Expected :=
  Restriction.expected columns s.rows ++ (s.order.getD []).flatMap fun k => k.operand.expected none

/-- the placeholders of a statement from left to right -/
def Statement.expected : Statement → Expected
  | select s | countOf s | explain s => s.expected columns
  | count _ rows | delete _ rows => Restriction.expected columns rows
  | insert _ written _ => written.zipIdx.map fun (column, k) => (k + 1, columns column)
  | update _ assignments rows =>
    assignments.map (fun a => (a.2, columns a.1)) ++ Restriction.expected columns rows

/-! ## Every placeholder of a text is listed -/

theorem Operand.fst_expected (type : Option ColumnType) (e : Operand) :
    (e.expected type).map Prod.fst = e.parameters := by
  simp [expected, Function.comp_def]

theorem Term.fst_expected (type : Option ColumnType) (t : Term Operand) :
    (t.expected type).map Prod.fst = t.parameters := by
  cases t <;> exact Operand.fst_expected _ _

namespace Condition

mutual

theorem fst_expected (c : Condition Operand) : (expected columns c).map Prod.fst = parameters c := by
  cases c with
  | compare op a b => simp [expected, parameters, Term.fst_expected]
  | among a b => simp [expected, parameters, Operand.fst_expected]
  | isNull e => exact Operand.fst_expected _ e
  | isNotNull e => exact Operand.fst_expected _ e
  | neg c => exact fst_expected c
  | group join parts =>
    rw [expected, parameters, parametersAll_eq]
    exact fst_expectedAll parts

theorem fst_expectedAll (cs : List (Condition Operand)) :
    (expectedAll columns cs).map Prod.fst = cs.flatMap parameters := by
  cases cs with
  | nil => rfl
  | cons c cs => rw [expectedAll, List.map_append, fst_expected c, fst_expectedAll cs, List.flatMap_cons]

end

end Condition

theorem Lexeme.placeholders_intercalate {α : Type} (f : α → List Lexeme) (as : List α) :
    placeholderNumbers (tokens (comma.intercalate (as.map f))) =
      as.flatMap fun a => placeholderNumbers (tokens (f a)) := by
  have framed := Framed.intercalate (tokens comma) rfl (fun a => tokens (f a)) (fun a => tokens (f a)) as
    fun a _ => .refl _
  rw [tokens_intercalate, List.map_map, Function.comp_def, ← framed.placeholders, placeholderNumbers,
    List.filterMap_flatMap]
  rfl

theorem Restriction.fst_expected (rows : Restriction) :
    (Restriction.expected columns rows).map Prod.fst = placeholderNumbers (conditionTokens rows) := by
  rw [expected, List.map_flatMap, conditionTokens, placeholderNumbers, List.filterMap_flatMap]
  refine List.flatMap_congr fun c _ => ?_
  exact (Condition.fst_expected columns c).trans c.placeholders_lexemes.symm

theorem Restriction.placeholders_clauses (rows : Restriction) (rest : List (Option (List Lexeme))) :
    placeholderNumbers (Lexeme.tokens (Lexeme.clauses (Restriction.clause? rows :: rest))) =
      (Restriction.expected columns rows).map Prod.fst ++ placeholderNumbers (Lexeme.tokens (Lexeme.clauses rest)) := by
  rw [Restriction.fst_expected]
  cases rows with
  | none => rfl
  | some cs =>
    have list := (Condition.framed_listLexemes cs).placeholders
    simp [clause?, conditionTokens, Lexeme.clauses, placeholderNumbers_cons, Token.placeholder?, list]

theorem placeholders_orderClause (keys : List SortKey) :
    placeholderNumbers (Lexeme.tokens (orderClause keys)) = keys.flatMap fun k => k.operand.parameters := by
  have each : ∀ k : SortKey, placeholderNumbers (Lexeme.tokens k.lexemes) = k.operand.parameters := fun k => by
    simp [SortKey.lexemes, placeholderNumbers_cons, Token.placeholder?, k.operand.placeholders_lexemes]
  simp [orderClause, placeholderNumbers_cons, Token.placeholder?, Lexeme.placeholders_intercalate, each]

theorem Select.placeholders_lexemes (s : Select) :
    placeholderNumbers (Lexeme.tokens s.lexemes) = (s.expected columns).map Prod.fst := by
  obtain ⟨distinct, names, table, rows, order, limit, offset⟩ := s
  have clauses := Restriction.placeholders_clauses columns rows
  cases distinct <;> cases order <;> cases limit <;> cases offset <;>
    simp [lexemes, expected, clauses, Lexeme.placeholders_names, countClause?, Lexeme.clauses, placeholderNumbers_cons,
      Token.placeholder?, placeholders_orderClause, List.map_flatMap, Operand.fst_expected]

namespace Statement

theorem placeholders_lexemes (s : Statement) :
    placeholderNumbers (Lexeme.tokens s.lexemes) = (s.expected columns).map Prod.fst := by
  have clauses := fun rows => Restriction.placeholders_clauses columns rows []
  cases s with
  | select s => exact s.placeholders_lexemes columns
  | count table rows =>
    simpa [lexemes, expected, placeholderNumbers_cons, Token.placeholder?, Lexeme.clauses] using clauses rows
  | countOf s => simp [lexemes, expected, placeholderNumbers_cons, Token.placeholder?, s.placeholders_lexemes columns]
  | explain s => simp [lexemes, expected, placeholderNumbers_cons, Token.placeholder?, s.placeholders_lexemes columns]
  | insert table written returning =>
    have numbers : written.zipIdx.map (fun a => a.2 + 1) = (List.range written.length).map (· + 1) := by
      refine List.ext_getElem? fun k => ?_
      by_cases hk : k < written.length
      · simp [hk]
      · simp [hk]
    have list : placeholderNumbers (Lexeme.tokens (Lexeme.comma.intercalate
        ((List.range written.length).map fun i => [.token (.parameter (i + 1))]))) =
        (List.range written.length).map (· + 1) := by
      rw [Lexeme.placeholders_intercalate, List.map_eq_flatMap]
      rfl
    by_cases hc : written = [] <;> by_cases hr : returning = [] <;>
      simp [lexemes, expected, placeholderNumbers_cons, Token.placeholder?, Lexeme.clauses, Lexeme.placeholders_names,
        Function.comp_def, numbers, list, hc, hr]
  | update table assignments rows =>
    have sets : assignments.flatMap (fun a => placeholderNumbers (Lexeme.tokens (assignmentLexemes a))) =
        assignments.map Prod.snd := by
      rw [List.map_eq_flatMap]
      rfl
    simp [lexemes, expected, placeholderNumbers_cons, Token.placeholder?, Lexeme.placeholders_intercalate, sets,
      clauses rows, Function.comp_def]
    rfl
  | delete table rows =>
    simpa [lexemes, expected, placeholderNumbers_cons, Token.placeholder?, Lexeme.clauses] using clauses rows

/-- **The placeholders of a statement's text are those with expected types**, in their order. -/
theorem placeholdersIn_text (s : Statement) : placeholdersIn s.text = some ((s.expected columns).map Prod.fst) := by
  rw [placeholdersIn, scan_text, Option.map_some, placeholders_lexemes columns]

end Statement

/-! ## Binding values -/

/-- whether values can be bound to placeholders, one after the other, the first with the given number -/
inductive Binds : Nat → Expected → List Value → Prop where
  | nil {first : Nat} : Binds first [] []
  | cons {first : Nat} {t : ColumnType} {v : Value} {expected : Expected} {values : List Value}
      (own : Parameter.Encodes t v) (rest : Binds (first + 1) expected values) :
      Binds first ((first, some t) :: expected) (v :: values)

namespace Binds

variable {first : Nat} {expected expected' : Expected} {values values' : List Value}

theorem append (h : Binds first expected values) (h' : Binds (first + values.length) expected' values') :
    Binds first (expected ++ expected') (values ++ values') := by
  induction h with
  | nil => exact h'
  | cons own _ ih =>
    refine .cons own (ih ?_)
    rwa [List.length_cons, Nat.add_comm _ 1, ← Nat.add_assoc] at h'

theorem singleton {t : ColumnType} {v : Value} (own : Parameter.Encodes t v) : Binds first [(first, some t)] [v] :=
  .cons own .nil

end Binds

end Tabula.Sql
