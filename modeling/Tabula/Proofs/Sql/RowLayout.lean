import Tabula.Proofs.Sql.Placeholders
import Tabula.Proofs.Sql.RowStatement
import Mathlib.Data.List.TakeWhile
/-!
# Which parameter stands beside which column

`RowLayout` is read off the text of a statement about one row: the columns with the numbers of the placeholders beside
them, and the columns of the result.  An insertion lists its columns before VALUES and its placeholders behind, all
others write column, equals sign and placeholder.  The reading is lenient: empty lists of columns are read as such, so
it says something of the statements of every model, with or without a key.
-/

namespace Tabula.Sql

/-- the columns beside the placeholders of a statement and the columns of its result, in the order of the text -/
structure RowLayout where
  parameters : List Equation
  results : List String
  deriving DecidableEq

namespace RowLayout

/-! ## Reading -/

/-- the name of an identifier -/
def identifier? : Token → Option String
  | .identifier name => some name
  | _ => none

/-- the names of identifiers from left to right -/
def names (tokens : List Token) : List String := tokens.filterMap identifier?

/-- the equation that tokens begin with -/
def equation? : List Token → Option Equation
  | .identifier column :: .sign s :: .parameter n :: _ => if s = "=" then some (column, n) else none
  | _ => none

/-- the equations from left to right -/
def equations : List Token → List Equation
  | [] => []
  | t :: rest => (equation? (t :: rest)).toList ++ equations rest

/-- columns with the numbers at their places -/
def paired? (columns : List String) (numbers : List Nat) : Option (List Equation) :=
  if columns.length = numbers.length then some (columns.zip numbers) else none

/-- the layout of an insertion: the columns are those in the parentheses before VALUES -/
def ofInsertion? (tokens : List Token) : Option RowLayout := do
  let columns := names ((tokens.takeWhile (· ≠ .word "VALUES")).dropWhile (· ≠ .opening))
  let parameters ← paired? columns (placeholderNumbers tokens)
  return ⟨parameters, names (tokens.dropWhile (· ≠ .word "RETURNING"))⟩

/-- the layout of another statement: every placeholder is part of an equation -/
def ofEquations? (tokens : List Token) (results : List String) : Option RowLayout :=
  let parameters := equations tokens
  if parameters.map Prod.snd = placeholderNumbers tokens then some ⟨parameters, results⟩ else none

/-- the layout of a statement by its first word -/
def ofTokens? : List Token → Option RowLayout
  | .word verb :: rest =>
    if verb = "INSERT" then ofInsertion? rest
    else if verb = "SELECT" then ofEquations? rest (names (rest.takeWhile (· ≠ .word "FROM")))
    else if verb = "UPDATE" ∨ verb = "DELETE" then ofEquations? rest []
    else none
  | _ => none

/-- the layout that a text is read as -/
def ofText? (text : String) : Option RowLayout := (scan text).bind ofTokens?

/-! ## The tokens of lists -/

/-- what is picked from lists is picked from them with separators, too -/
theorem filterMap_intercalate {α β : Type} {f : α → Option β} {t : α} (ht : f t = none) (lists : List (List α)) :
    (List.intercalate [t] lists).filterMap f = lists.flatMap fun l => l.filterMap f := by
  induction lists with
  | nil => rfl
  | cons l rest ih =>
    cases rest with
    | nil => simp
    | cons l' rest =>
      rw [List.intercalate_cons_cons, List.append_assoc, List.filterMap_append, List.singleton_append,
        List.filterMap_cons_none ht, ih, ← List.flatMap_cons]

/-- what is in no list and is no separator is not in the lists with separators -/
theorem not_mem_intercalate {α : Type} {a t : α} {lists : List (List α)} (apart : a ≠ t) (h : ∀ l ∈ lists, a ∉ l) :
    a ∉ List.intercalate [t] lists := by
  induction lists with
  | nil => exact List.not_mem_nil
  | cons l rest ih =>
    obtain ⟨here, there⟩ := List.forall_mem_cons.mp h
    cases rest with
    | nil => simpa using here
    | cons l' rest =>
      rw [List.intercalate_cons_cons]
      simp [here, apart, ih there]

@[simp] theorem names_nil : names [] = [] := rfl

@[simp] theorem names_append (ts us : List Token) : names (ts ++ us) = names ts ++ names us := List.filterMap_append ..

theorem names_cons (t : Token) (ts : List Token) : names (t :: ts) = (identifier? t).toList ++ names ts := by
  cases h : identifier? t <;> simp [names, h]

/-- the tokens of names between commas -/
def listTokens (ns : List String) : List Token := List.intercalate [.comma] (ns.map fun n => [.identifier n])

theorem word_not_mem_list (w : String) (ns : List String) : .word w ∉ listTokens ns :=
  RowStatement.word_not_mem_names w ns

theorem names_list (ns : List String) : names (listTokens ns) = ns := by
  rw [names, listTokens, filterMap_intercalate rfl, List.flatMap_map]
  simp [identifier?]

theorem placeholderNumbers_list (ns : List String) : placeholderNumbers (listTokens ns) = [] := by
  rw [placeholderNumbers, listTokens, filterMap_intercalate rfl, List.flatMap_map]
  simp [Token.placeholder?]

@[simp] theorem equations_tokens (e : Equation) (rest : List Token) :
    equations (e.tokens ++ rest) = e :: equations rest := by
  simp [Equation.tokens, equations, equation?]

/-- there is no equation in a list of names -/
theorem equations_list (ns : List String) (w : String) (rest : List Token) :
    equations (listTokens ns ++ .word w :: rest) = equations rest := by
  induction ns with
  | nil => simp [listTokens, equations, equation?]
  | cons n ns ih =>
    cases ns with
    | nil => simp [listTokens, equations, equation?]
    | cons n' ns =>
      have next : listTokens (n :: n' :: ns) = .identifier n :: .comma :: listTokens (n' :: ns) := by
        simp [listTokens, List.intercalate_cons_cons]
      rw [next, ← ih]
      simp [equations, equation?]

/-- equations between separators -/
theorem equations_intercalate {t : Token} (ht : identifier? t = none) (es : List Equation) (rest : List Token) :
    equations (List.intercalate [t] (es.map Equation.tokens) ++ rest) = es ++ equations rest := by
  have skip : ∀ us, equations (t :: us) = equations us := by
    intro us
    cases t <;> simp [equations, equation?, identifier?] at ht ⊢
  induction es with
  | nil => rfl
  | cons e es ih =>
    cases es with
    | nil => simp
    | cons e' es =>
      rw [List.map_cons, List.map_cons, List.intercalate_cons_cons, ← List.map_cons, List.append_assoc,
        List.append_assoc, equations_tokens, List.singleton_append, skip, ih]
      rfl

theorem placeholderNumbers_intercalate {t : Token} (ht : t.placeholder? = none) (es : List Equation) :
    placeholderNumbers (List.intercalate [t] (es.map Equation.tokens)) = es.map Prod.snd := by
  have each : ∀ e : Equation, e.tokens.filterMap Token.placeholder? = [e.2] := fun e => rfl
  rw [placeholderNumbers, filterMap_intercalate ht, List.flatMap_map, List.map_eq_flatMap]
  simp only [each]

/-- the tokens of the condition that equations hold -/
def whereTokens (rows : List Equation) : List Token :=
  .word "WHERE" :: List.intercalate [.word "AND"] (rows.map Equation.tokens)

theorem equations_where (rows : List Equation) : equations (whereTokens rows) = rows := by
  have list := equations_intercalate (t := .word "AND") rfl rows []
  rw [List.append_nil] at list
  simpa [whereTokens, equations, equation?] using list

theorem placeholderNumbers_where (rows : List Equation) : placeholderNumbers (whereTokens rows) = rows.map Prod.snd := by
  rw [whereTokens, placeholderNumbers_cons, placeholderNumbers_intercalate rfl]
  rfl

/-! ## Words -/

theorem ne_word {w : String} {tokens : List Token} (h : .word w ∉ tokens) :
    ∀ t ∈ tokens, decide (t ≠ .word w) = true :=
  fun _ ht => decide_eq_true fun same => h (same ▸ ht)

theorem takeWhile_word {w : String} {front : List Token} (h : .word w ∉ front) (back : List Token) :
    (front ++ .word w :: back).takeWhile (· ≠ .word w) = front := by
  rw [List.takeWhile_append_of_pos (ne_word h), List.takeWhile_cons_of_neg (by simp), List.append_nil]

theorem dropWhile_word {w : String} {front : List Token} (h : .word w ∉ front) (back : List Token) :
    (front ++ .word w :: back).dropWhile (· ≠ .word w) = .word w :: back := by
  rw [List.dropWhile_append_of_pos (ne_word h), List.dropWhile_cons_of_neg (by simp)]

theorem dropWhile_word_nil {w : String} {tokens : List Token} (h : .word w ∉ tokens) :
    tokens.dropWhile (· ≠ .word w) = [] :=
  List.dropWhile_eq_nil_iff.mpr (ne_word h)

/-! ## Statements -/

theorem tokens_condition (rows : List Equation) :
    Lexeme.tokens (Lexeme.clauses [Restriction.clause? (some (rows.map Equation.condition))]) = whereTokens rows := by
  simpa [whereTokens] using RowStatement.tokens_where [] rows

/-- equations among words and names, and the placeholders in them -/
theorem ofEquations_eq {tokens : List Token} {es : List Equation} (read : equations tokens = es)
    (numbers : placeholderNumbers tokens = es.map Prod.snd) (results : List String) :
    ofEquations? tokens results = some ⟨es, results⟩ := by
  unfold ofEquations?
  rw [read, numbers]
  exact if_pos rfl

/-! ### Updates, deletions and selections -/

/-- the tokens of an update behind its first word -/
def updateTokens (table : String) (sets rows : List Equation) : List Token :=
  .identifier table :: .word "SET" :: (List.intercalate [.comma] (sets.map Equation.tokens) ++ whereTokens rows)

theorem tokens_update (table : String) (sets rows : List Equation) :
    Lexeme.tokens (Statement.update table sets (some (rows.map Equation.condition))).lexemes =
      .word "UPDATE" :: updateTokens table sets rows := by
  simp [Statement.lexemes, updateTokens, RowStatement.tokens_assignments, tokens_condition]

/-- **The layout of an update**: what is set, then what is compared. -/
theorem ofText_update (table : String) (sets rows : List Equation) :
    ofText? (Statement.update table sets (some (rows.map Equation.condition))).text = some ⟨sets ++ rows, []⟩ := by
  have read : equations (updateTokens table sets rows) = sets ++ rows := by
    have list := equations_intercalate (t := .comma) rfl sets (whereTokens rows)
    rw [equations_where] at list
    simpa [updateTokens, equations, equation?] using list
  have numbers : placeholderNumbers (updateTokens table sets rows) = (sets ++ rows).map Prod.snd := by
    have list := placeholderNumbers_intercalate (t := .comma) rfl sets
    simp [updateTokens, placeholderNumbers_cons, Token.placeholder?, list, placeholderNumbers_where]
  rw [ofText?, Statement.scan_text, tokens_update, Option.bind_some, ofTokens?, if_neg (by decide),
    if_neg (by decide), if_pos (.inl rfl), ofEquations_eq read numbers]

/-- the tokens from the name of the table on, where that is followed by a condition -/
def tableTokens (table : String) (rows : List Equation) : List Token := .identifier table :: whereTokens rows

theorem equations_table (table : String) (rows : List Equation) : equations (tableTokens table rows) = rows := by
  have list := equations_where rows
  simpa [tableTokens, whereTokens, equations, equation?] using list

theorem placeholderNumbers_table (table : String) (rows : List Equation) :
    placeholderNumbers (tableTokens table rows) = rows.map Prod.snd := by
  rw [tableTokens, placeholderNumbers_cons, placeholderNumbers_where]
  rfl

theorem tokens_delete (table : String) (rows : List Equation) :
    Lexeme.tokens (Statement.delete table (some (rows.map Equation.condition))).lexemes =
      .word "DELETE" :: .word "FROM" :: tableTokens table rows := by
  simp [Statement.lexemes, tableTokens, tokens_condition]

/-- **The layout of a deletion**: what is compared. -/
theorem ofText_delete (table : String) (rows : List Equation) :
    ofText? (Statement.delete table (some (rows.map Equation.condition))).text = some ⟨rows, []⟩ := by
  have read : equations (.word "FROM" :: tableTokens table rows) = rows := equations_table table rows
  have numbers : placeholderNumbers (.word "FROM" :: tableTokens table rows) = rows.map Prod.snd :=
    placeholderNumbers_table table rows
  rw [ofText?, Statement.scan_text, tokens_delete, Option.bind_some, ofTokens?, if_neg (by decide),
    if_neg (by decide), if_pos (.inr rfl), ofEquations_eq read numbers]

theorem tokens_select (columns : List String) (table : String) (rows : List Equation) : Lexeme.tokens
    (Statement.select { columns, table, rows := some (rows.map Equation.condition) }).lexemes =
      .word "SELECT" :: (listTokens columns ++ .word "FROM" :: tableTokens table rows) := by
  have front := RowStatement.tokens_names columns
  have condition : Lexeme.tokens (Lexeme.clauses
      [Restriction.clause? (some (rows.map Equation.condition)), none, none, none]) = whereTokens rows :=
    tokens_condition rows
  simp [Statement.lexemes, Select.lexemes, countClause?, tableTokens, front, listTokens, condition]

/-- **The layout of a selection**: what is compared, and the columns in their order. -/
theorem ofText_select (columns : List String) (table : String) (rows : List Equation) :
    ofText? (Statement.select { columns, table, rows := some (rows.map Equation.condition) }).text =
      some ⟨rows, columns⟩ := by
  have read : equations (listTokens columns ++ .word "FROM" :: tableTokens table rows) = rows := by
    rw [equations_list, equations_table]
  have numbers : placeholderNumbers (listTokens columns ++ .word "FROM" :: tableTokens table rows) =
      rows.map Prod.snd := by
    simp [placeholderNumbers_cons, Token.placeholder?, placeholderNumbers_list, placeholderNumbers_table]
  have results : names ((listTokens columns ++ .word "FROM" :: tableTokens table rows).takeWhile
      (· ≠ .word "FROM")) = columns := by
    rw [takeWhile_word (word_not_mem_list "FROM" columns), names_list]
  rw [ofText?, Statement.scan_text, tokens_select, Option.bind_some, ofTokens?, if_neg (by decide), if_pos rfl,
    ofEquations_eq read numbers, results]

/-! ### Insertions -/

/-- the tokens of the placeholders `1` to `n` between commas -/
def numberTokens (n : Nat) : List Token :=
  List.intercalate [.comma] ((List.range n).map fun k => [.parameter (k + 1)])

theorem placeholderNumbers_numbers (n : Nat) : placeholderNumbers (numberTokens n) = (List.range n).map (· + 1) := by
  rw [placeholderNumbers, numberTokens, filterMap_intercalate rfl, List.flatMap_map, List.map_eq_flatMap]
  simp [Token.placeholder?]

theorem word_not_mem_numbers (w : String) (n : Nat) : .word w ∉ numberTokens n := by
  rw [numberTokens]
  apply not_mem_intercalate (by simp)
  intro l hl
  obtain ⟨k, _, rfl⟩ := List.mem_map.mp hl
  simp

/-- the tokens of an insertion before VALUES -/
def columnTokens (table : String) (columns : List String) : List Token :=
  .word "INTO" :: .identifier table ::
    if columns.isEmpty then [.word "DEFAULT"] else .opening :: (listTokens columns ++ [.closing])

/-- the tokens of an insertion between VALUES and RETURNING -/
def placeTokens (columns : List String) : List Token :=
  if columns.isEmpty then [] else .opening :: (numberTokens columns.length ++ [.closing])

/-- the tokens of the clause that asks for columns of the new row -/
def returningTokens (returning : List String) : List Token :=
  if returning.isEmpty then [] else .word "RETURNING" :: listTokens returning

/-- the tokens of an insertion behind its first word -/
def insertTokens (table : String) (columns returning : List String) : List Token :=
  columnTokens table columns ++ .word "VALUES" :: (placeTokens columns ++ returningTokens returning)

theorem tokens_insert (table : String) (columns returning : List String) :
    Lexeme.tokens (Statement.insert table columns returning).lexemes =
      .word "INSERT" :: insertTokens table columns returning := by
  have values : Lexeme.tokens (Lexeme.comma.intercalate
      ((List.range columns.length).map fun i => [.token (.parameter (i + 1))])) = numberTokens columns.length := by
    rw [Lexeme.tokens_intercalate, List.map_map]
    rfl
  have front := RowStatement.tokens_names columns
  have back := RowStatement.tokens_names returning
  cases hc : columns.isEmpty <;> cases hr : returning.isEmpty <;>
    simp [Statement.lexemes, insertTokens, columnTokens, placeTokens, returningTokens, listTokens, Lexeme.clauses, hc,
      hr, values, front, back]

theorem word_not_mem_columns {w : String} (columns : List String) (table : String) (hi : w ≠ "INTO")
    (hd : w ≠ "DEFAULT") : .word w ∉ columnTokens table columns := by
  have list := word_not_mem_list w columns
  cases hc : columns.isEmpty <;> simp [columnTokens, hc, hi, hd, list]

theorem word_not_mem_places (w : String) (columns : List String) : .word w ∉ placeTokens columns := by
  have list := word_not_mem_numbers w columns.length
  cases hc : columns.isEmpty <;> simp [placeTokens, hc, list]

theorem names_columns (table : String) (columns : List String) :
    names ((columnTokens table columns).dropWhile (· ≠ .opening)) = columns := by
  cases hc : columns.isEmpty with
  | true => simp [columnTokens, List.isEmpty_iff.mp hc]
  | false => simp [columnTokens, hc, names_cons, names_list, identifier?]

theorem placeholderNumbers_insert (table : String) (columns returning : List String) :
    placeholderNumbers (insertTokens table columns returning) = (List.range columns.length).map (· + 1) := by
  have returned : placeholderNumbers (returningTokens returning) = [] := by
    cases hr : returning.isEmpty <;>
      simp [returningTokens, hr, placeholderNumbers_cons, Token.placeholder?, placeholderNumbers_list]
  cases hc : columns.isEmpty with
  | true =>
    simp [insertTokens, columnTokens, placeTokens, placeholderNumbers_cons, Token.placeholder?,
      List.isEmpty_iff.mp hc, returned]
  | false =>
    simp [insertTokens, columnTokens, placeTokens, hc, placeholderNumbers_cons, Token.placeholder?,
      placeholderNumbers_list, placeholderNumbers_numbers, returned]

theorem names_returning (table : String) (columns returning : List String) :
    names ((insertTokens table columns returning).dropWhile (· ≠ .word "RETURNING")) = returning := by
  have apart : .word "RETURNING" ∉ columnTokens table columns ++ .word "VALUES" :: placeTokens columns := by
    have front := word_not_mem_columns (w := "RETURNING") columns table (by decide) (by decide)
    have places := word_not_mem_places "RETURNING" columns
    simp [front, places]
  cases hr : returning.isEmpty with
  | true =>
    have all : insertTokens table columns returning =
        columnTokens table columns ++ .word "VALUES" :: placeTokens columns := by
      simp [insertTokens, returningTokens, hr]
    rw [all, dropWhile_word_nil apart, names_nil, List.isEmpty_iff.mp hr]
  | false =>
    have split : insertTokens table columns returning =
        (columnTokens table columns ++ .word "VALUES" :: placeTokens columns) ++
          .word "RETURNING" :: listTokens returning := by
      simp [insertTokens, returningTokens, hr]
    rw [split, dropWhile_word apart, names_cons, names_list]
    rfl

/-- **The layout of an insertion**: the `n`-th column with the `n`-th placeholder, and the columns that are returned in
their order. -/
theorem ofText_insert (table : String) (columns returning : List String) :
    ofText? (Statement.insert table columns returning).text =
      some ⟨columns.zip ((List.range columns.length).map (· + 1)), returning⟩ := by
  have written : names (((insertTokens table columns returning).takeWhile (· ≠ .word "VALUES")).dropWhile
      (· ≠ .opening)) = columns := by
    rw [insertTokens, takeWhile_word (word_not_mem_columns columns table (by decide) (by decide)), names_columns]
  have numbers := placeholderNumbers_insert table columns returning
  have results := names_returning table columns returning
  rw [ofText?, Statement.scan_text, tokens_insert, Option.bind_some, ofTokens?, if_pos rfl, ofInsertion?, written,
    numbers, results, paired?, if_pos (by simp)]
  rfl

example : ofText? "INSERT INTO \"tag\" (\"id\", \"name\") VALUES ($1, $2) RETURNING \"rev\"" =
    some ⟨[("id", 1), ("name", 2)], ["rev"]⟩ := by decide +kernel

end RowLayout

end Tabula.Sql
