import Tabula.Proofs.Outcome
import Tabula.Proofs.Sql.Written
/-!
# Statements about the rows of a table

`RowStatement` is what a database makes of the text of a statement that fetches or changes the rows in which some
columns equal parameters.  Any other text it refuses.  `RowStatement.ofText_select` and `RowStatement.ofText_update`:
the statements of this form are read as they were meant.
-/

namespace Tabula.Sql

/-! ## Reading -/

/-- a column with the number of a parameter -/
abbrev Equation := String × Nat

/-- a statement about the rows in which equations hold -/
inductive RowStatement where
  | fetch (columns : List String) (table : String) (rows : List Equation)
  | change (table : String) (sets rows : List Equation)
  deriving DecidableEq

/-- a column, an equals sign and a parameter -/
def equation? : List Token → Option Equation
  | [.identifier column, .sign s, .parameter n] => if s = "=" then some (column, n) else none
  | _ => none

/-- an identifier alone -/
def name? : List Token → Option String
  | [.identifier n] => some n
  | _ => none

namespace RowStatement

/-- columns and a table with FROM between them -/
def readFetch (rows : List Equation) (tokens : List Token) : Option RowStatement :=
  match tokens.splitOn (.word "FROM") with
  | [columns, [.identifier table]] => do return fetch (← (columns.splitOn .comma).mapM name?) table rows
  | _ => none

/-- a table and what is set in it, with SET between them -/
def readChange (rows : List Equation) (tokens : List Token) : Option RowStatement :=
  match tokens.splitOn (.word "SET") with
  | [[.identifier table], sets] => do return change table (← (sets.splitOn .comma).mapM equation?) rows
  | _ => none

/-- a statement with equations behind its WHERE -/
def ofTokens? (tokens : List Token) : Option RowStatement :=
  match tokens.splitOn (.word "WHERE") with
  | [.word verb :: rest, condition] => do
    let rows ← (condition.splitOn (.word "AND")).mapM equation?
    if verb = "SELECT" then readFetch rows rest else if verb = "UPDATE" then readChange rows rest else none
  | _ => none

/-- the statement that a text is read as -/
def ofText? (text : String) : Option RowStatement := (scan text).bind ofTokens?

example : ofText? "UPDATE \"a\" SET \"b\" = $1 WHERE \"c\" = $2 AND \"d\" = $3" =
    some (.change "a" [("b", 1)] [("c", 2), ("d", 3)]) := by decide +kernel

end RowStatement

/-! ## Tokens -/

/-- an equation as a condition -/
def Equation.condition (e : Equation) : Condition Operand :=
  .compare .equal (.plain (.column e.1)) (.plain (.parameter e.2))

/-- the tokens of an equation -/
def Equation.tokens (e : Equation) : List Token := [.identifier e.1, .sign "=", .parameter e.2]

namespace RowStatement

open Lexeme (tokens_intercalate)

theorem mapM_equation (es : List Equation) : (es.map Equation.tokens).mapM equation? = some es := by
  have each : ∀ e ∈ es, equation? e.tokens = some (id e) := fun e _ => by simp [Equation.tokens, equation?]
  simpa using mapM_map_some each

theorem mapM_name (ns : List String) : (ns.map fun n => [Token.identifier n]).mapM name? = some ns := by
  have each : ∀ n ∈ ns, name? [.identifier n] = some (id n) := fun _ _ => rfl
  simpa using mapM_map_some each

theorem tokens_assignments (sets : List Equation) :
    Lexeme.tokens (Lexeme.comma.intercalate (sets.map assignmentLexemes)) =
      List.intercalate [.comma] (sets.map Equation.tokens) := by
  rw [tokens_intercalate, List.map_map]
  rfl

theorem tokens_names (ns : List String) :
    Lexeme.tokens (Lexeme.names ns) = List.intercalate [.comma] (ns.map fun n => [.identifier n]) := by
  rw [Lexeme.names, tokens_intercalate, List.map_map]
  rfl

theorem tokens_conditions (rows : List Equation) :
    Lexeme.tokens (Condition.listLexemes (rows.map Equation.condition)) =
      List.intercalate [.word "AND"] (rows.map Equation.tokens) := by
  rw [Condition.listLexemes, tokens_intercalate, Condition.lexemesAll_eq, List.map_map, List.map_map]
  rfl

/-- words other than the separator do not stand in a list of equations -/
theorem word_not_mem {w : String} {t : Token} (ht : t ≠ .word w) (es : List Equation) :
    .word w ∉ List.intercalate [t] (es.map Equation.tokens) := by
  induction es with
  | nil => simp
  | cons e es ih =>
    cases es with
    | nil => simp [Equation.tokens]
    | cons e' es =>
      rw [List.map_cons, List.map_cons, List.intercalate_cons_cons]
      simpa [Equation.tokens, ht.symm] using ih

theorem word_not_mem_names (w : String) (ns : List String) :
    .word w ∉ List.intercalate [.comma] (ns.map fun n => [Token.identifier n]) := by
  induction ns with
  | nil => simp
  | cons n ns ih =>
    cases ns with
    | nil => simp
    | cons n' ns =>
      rw [List.map_cons, List.map_cons, List.intercalate_cons_cons]
      simpa using ih

theorem splitOn_equations {t : Token} (ht : ∀ e : Equation, t ∉ e.tokens) {es : List Equation} (hne : es ≠ []) :
    (List.intercalate [t] (es.map Equation.tokens)).splitOn t = es.map Equation.tokens := by
  apply List.splitOn_intercalate
  · intro l hl
    obtain ⟨e, _, rfl⟩ := List.mem_map.mp hl
    exact ht e
  · simpa using hne

/-- two parts fall apart at the word between them -/
theorem splitOn_word {w : String} {front : List Token} (hf : .word w ∉ front) (back : List Token)
    (hb : .word w ∉ back) : (front ++ .word w :: back).splitOn (.word w) = [front, back] := by
  have apart : ∀ l ∈ [front, back], .word w ∉ l := by simp [hf, hb]
  have split := List.splitOn_intercalate (Token.word w) apart (by simp)
  simpa [List.intercalate_cons_cons] using split

/-! ## Statements read back -/

theorem tokens_where (front : List Lexeme) (rows : List Equation) :
    Lexeme.tokens (front ++ Lexeme.clauses [Restriction.clause? (some (rows.map Equation.condition))]) =
      Lexeme.tokens front ++ .word "WHERE" :: List.intercalate [.word "AND"] (rows.map Equation.tokens) := by
  simp [Restriction.clause?, Lexeme.clauses, tokens_conditions]

/-- what stands before WHERE is read by its first word -/
theorem ofTokens_where {verb : String} {rest : List Token} {rows : List Equation}
    (front : .word "WHERE" ∉ .word verb :: rest) (hr : rows ≠ []) :
    ofTokens? (.word verb :: rest ++ .word "WHERE" :: List.intercalate [.word "AND"] (rows.map Equation.tokens)) =
      if verb = "SELECT" then readFetch rows rest else if verb = "UPDATE" then readChange rows rest else none := by
  have parts := splitOn_word front _ (word_not_mem (w := "WHERE") (t := .word "AND") (by decide) rows)
  have conditions := splitOn_equations (t := .word "AND") (by simp [Equation.tokens]) hr
  simp only [ofTokens?, parts, conditions, mapM_equation, Option.bind_eq_bind, Option.bind_some]

/-- **The text of a statement that fetches rows by equations is read as that.** -/
theorem ofText_select {columns : List String} (table : String) {rows : List Equation} (hc : columns ≠ [])
    (hr : rows ≠ []) :
    ofText? (Statement.select { columns, table, rows := some (rows.map Equation.condition) }).text =
      some (.fetch columns table rows) := by
  have names := splitOn_word (word_not_mem_names "FROM" columns) [.identifier table] (by simp)
  have listed : (List.intercalate [.comma] (columns.map fun n => [Token.identifier n])).splitOn .comma =
      columns.map fun n => [Token.identifier n] :=
    List.splitOn_intercalate _ (by simp) (by simpa using hc)
  have lexemes : (Statement.select { columns, table, rows := some (rows.map Equation.condition) }).lexemes =
      .word "SELECT" :: .blank :: (Lexeme.names columns ++ [.blank, .word "FROM", .blank, .name table]) ++
        Lexeme.clauses [Restriction.clause? (some (rows.map Equation.condition))] := by
    simp only [Statement.lexemes, Select.lexemes, countClause?, Option.map_none, Bool.false_eq_true, if_false,
      List.nil_append, List.append_assoc, List.cons_append]
    rfl
  have front : .word "WHERE" ∉ .word "SELECT" :: (List.intercalate [.comma]
      (columns.map fun n => [Token.identifier n]) ++ [.word "FROM", .identifier table]) := by
    simp [word_not_mem_names]
  have read := ofTokens_where front hr
  rw [if_pos rfl, readFetch, names] at read
  simp only [listed, mapM_name, Option.bind_eq_bind, Option.bind_some] at read
  rw [ofText?, Statement.scan_text, Option.bind_some, lexemes, tokens_where]
  simp only [Lexeme.tokens_token, Lexeme.tokens_blank, Lexeme.tokens_append, Lexeme.tokens_nil, tokens_names]
  exact read

/-- **The text of a statement that changes rows by equations is read as that.** -/
theorem ofText_update (table : String) {sets rows : List Equation} (hs : sets ≠ []) (hr : rows ≠ []) :
    ofText? (Statement.update table sets (some (rows.map Equation.condition))).text =
      some (.change table sets rows) := by
  have words : ∀ w, .word w ∉ List.intercalate [.comma] (sets.map Equation.tokens) :=
    fun w => word_not_mem (by simp) sets
  have first : .word "SET" ∉ [Token.identifier table] := by simp
  have parts := splitOn_word first _ (words "SET")
  have listed := splitOn_equations (t := .comma) (by simp [Equation.tokens]) hs
  have lexemes : (Statement.update table sets (some (rows.map Equation.condition))).lexemes =
      .word "UPDATE" :: .blank :: .name table :: .blank :: .word "SET" :: .blank ::
        Lexeme.comma.intercalate (sets.map assignmentLexemes) ++
        Lexeme.clauses [Restriction.clause? (some (rows.map Equation.condition))] := rfl
  have front : .word "WHERE" ∉ .word "UPDATE" :: .identifier table :: .word "SET" ::
      List.intercalate [.comma] (sets.map Equation.tokens) := by
    simp [words]
  have read := ofTokens_where front hr
  rw [if_neg (by decide), if_pos rfl, readChange] at read
  rw [List.singleton_append] at parts
  simp only [parts, listed, mapM_equation, Option.bind_eq_bind, Option.bind_some] at read
  rw [ofText?, Statement.scan_text, Option.bind_some, lexemes, tokens_where]
  simp only [Lexeme.tokens_token, Lexeme.tokens_blank, tokens_assignments]
  exact read

end RowStatement

end Tabula.Sql
