import Tabula.Proofs.Sql.Written
/-!
# Placeholders

The placeholders of a text are those among its tokens; what stands in quotes is none.  `Framed inner whole` says that
`whole` holds the tokens of `inner` in their order and beside them no placeholder, so both have the same placeholders.
-/

namespace Tabula.Sql

/-- the number of a placeholder -/
def Token.placeholder? : Token → Option Nat
  | parameter n => some n
  | _ => none

/-- the numbers of placeholders from left to right -/
def placeholderNumbers (ts : List Token) : List Nat := ts.filterMap Token.placeholder?

/-- the numbers of the placeholders of a text; none if it cannot be read -/
def placeholdersIn (text : String) : Option (List Nat) := (scan text).map placeholderNumbers

@[simp] theorem placeholderNumbers_append (ts us : List Token) :
    placeholderNumbers (ts ++ us) = placeholderNumbers ts ++ placeholderNumbers us :=
  List.filterMap_append ..

@[simp] theorem placeholderNumbers_nil : placeholderNumbers [] = [] := rfl

theorem placeholderNumbers_cons (t : Token) (ts : List Token) :
    placeholderNumbers (t :: ts) = t.placeholder?.toList ++ placeholderNumbers ts := by
  cases h : t.placeholder? <;> simp [placeholderNumbers, h]

/-! ## Frames -/

/-- tokens in their order, with tokens that are no placeholders before, between and behind them -/
inductive Framed : List Token → List Token → Prop where
  | nil : Framed [] []
  | keep (t : Token) {ts us : List Token} (h : Framed ts us) : Framed (t :: ts) (t :: us)
  | frame {t : Token} (ht : t.placeholder? = none) {ts us : List Token} (h : Framed ts us) : Framed ts (t :: us)

namespace Framed

theorem refl (ts : List Token) : Framed ts ts := by
  induction ts with
  | nil => exact nil
  | cons t ts ih => exact keep t ih

theorem append {ts us vs ws : List Token} (h : Framed ts us) (h' : Framed vs ws) : Framed (ts ++ vs) (us ++ ws) := by
  induction h with
  | nil => exact h'
  | keep t _ ih => exact keep t ih
  | frame ht _ ih => exact frame ht ih

theorem trans {ts us vs : List Token} (h : Framed ts us) (h' : Framed us vs) : Framed ts vs := by
  induction h' generalizing ts with
  | nil => exact h
  | keep t _ ih =>
    cases h with
    | keep _ h => exact keep t (ih h)
    | frame ht h => exact frame ht (ih h)
  | frame ht _ ih => exact frame ht (ih h)

/-- nothing but frame -/
theorem empty {us : List Token} (h : placeholderNumbers us = []) : Framed [] us := by
  induction us with
  | nil => exact nil
  | cons u us ih =>
    cases hu : u.placeholder? with
    | none => exact frame hu (ih (by simpa [placeholderNumbers_cons, hu] using h))
    | some n => simp [placeholderNumbers_cons, hu] at h

theorem before {us ts vs : List Token} (hu : placeholderNumbers us = []) (h : Framed ts vs) : Framed ts (us ++ vs) :=
  append (empty hu) h

theorem behind {us ts vs : List Token} (hu : placeholderNumbers us = []) (h : Framed ts vs) :
    Framed ts (vs ++ us) := by
  simpa using append h (empty hu)

theorem placeholders {ts us : List Token} (h : Framed ts us) : placeholderNumbers ts = placeholderNumbers us := by
  induction h with
  | nil => rfl
  | keep t _ ih => rw [placeholderNumbers_cons, placeholderNumbers_cons, ih]
  | frame ht _ ih => simpa [placeholderNumbers_cons, ht] using ih

theorem sublist {ts us : List Token} (h : Framed ts us) : ts.Sublist us := by
  induction h with
  | nil => exact .slnil
  | keep t _ ih => exact ih.cons_cons t
  | frame _ _ ih => exact ih.cons _

theorem flatMap {α : Type} {f g : α → List Token} {as : List α} (h : ∀ a ∈ as, Framed (f a) (g a)) :
    Framed (as.flatMap f) (as.flatMap g) := by
  induction as with
  | nil => exact nil
  | cons a as ih => exact append (h a (by simp)) (ih fun b hb => h b (List.mem_cons_of_mem _ hb))

/-- lists of tokens with a separator between them -/
theorem intercalate (sep : List Token) (hsep : placeholderNumbers sep = []) {α : Type} (f g : α → List Token)
    (as : List α) (h : ∀ a ∈ as, Framed (f a) (g a)) : Framed (as.flatMap f) (sep.intercalate (as.map g)) := by
  induction as with
  | nil => exact nil
  | cons a as ih =>
    have ih := ih fun b hb => h b (List.mem_cons_of_mem _ hb)
    cases as with
    | nil => simpa using h a (by simp)
    | cons b as =>
      rw [List.map_cons, List.map_cons, List.intercalate_cons_cons, List.flatMap_cons]
      exact append (behind hsep (h a (by simp))) ih

end Framed

/-! ## Parameters of conditions -/

/-- the number of the parameter, if the operand is one -/
def Operand.parameters : Operand → List Nat
  | parameter n => [n]
  | _ => []

def Term.parameters : Term Operand → List Nat
  | plain e | upper e => e.parameters

namespace Condition

mutual

/-- the numbers of the parameters from left to right -/
def parameters : Condition Operand → List Nat
  | compare _ a b => a.parameters ++ b.parameters
  | among a b => a.parameters ++ b.parameters
  | isNull e | isNotNull e => e.parameters
  | neg c => parameters c
  | group _ parts => parametersAll parts

def parametersAll : List (Condition Operand) → List Nat
  | [] => []
  | c :: cs => parameters c ++ parametersAll cs

end

theorem parametersAll_eq (cs : List (Condition Operand)) : parametersAll cs = cs.flatMap parameters := by
  induction cs with
  | nil => rfl
  | cons c cs ih => rw [parametersAll, ih, List.flatMap_cons]

end Condition

theorem placeholder_segmentToken (s : String) : (segmentToken s).placeholder? = none := by
  unfold segmentToken
  split <;> rfl

theorem placeholders_stepLexemes (steps : List (String × String)) :
    placeholderNumbers (Lexeme.tokens (stepLexemes steps)) = [] := by
  induction steps with
  | nil => rfl
  | cons s rest ih =>
    have step : stepLexemes (s :: rest) = .sign s.1 :: .token (segmentToken s.2) :: stepLexemes rest := rfl
    have sign : (Token.sign s.1).placeholder? = none := rfl
    simp [step, placeholderNumbers_cons, placeholder_segmentToken, sign, ih]

theorem Operand.placeholders_lexemes (e : Operand) : placeholderNumbers (Lexeme.tokens e.lexemes) = e.parameters := by
  cases e with
  | column n => rfl
  | path n segments => exact placeholders_stepLexemes _
  | pathText n segments =>
    simp only [lexemes]
    cases segments.getLast? with
    | none => rfl
    | some last => exact placeholders_stepLexemes _
  | parameter n => rfl

theorem Term.placeholders_lexemes (t : Term Operand) : placeholderNumbers (Lexeme.tokens t.lexemes) = t.parameters := by
  cases t with
  | plain e => exact e.placeholders_lexemes
  | upper e => simp [lexemes, parameters, placeholderNumbers_cons, Token.placeholder?, e.placeholders_lexemes]

theorem Operator.placeholder_token (op : Operator) : op.token.placeholder? = none := by
  cases op <;> rfl

namespace Condition

theorem placeholders_join (join : Join) {cs : List (Condition Operand)}
    (h : ∀ c ∈ cs, placeholderNumbers (Lexeme.tokens (lexemes c)) = parameters c) :
    placeholderNumbers (Lexeme.tokens (join.lexemes.intercalate (lexemesAll cs))) = cs.flatMap parameters := by
  have framed := Framed.intercalate (Lexeme.tokens join.lexemes) rfl (fun c => Lexeme.tokens (lexemes c))
    (fun c => Lexeme.tokens (lexemes c)) cs fun c _ => .refl _
  rw [Lexeme.tokens_intercalate, lexemesAll_eq, List.map_map]
  refine framed.placeholders.symm.trans ?_
  rw [placeholderNumbers, List.filterMap_flatMap]
  exact List.flatMap_congr h

mutual

theorem placeholders_lexemes (c : Condition Operand) :
    placeholderNumbers (Lexeme.tokens (lexemes c)) = parameters c := by
  cases c with
  | compare op a b =>
    simp [lexemes, parameters, placeholderNumbers_cons, a.placeholders_lexemes, b.placeholders_lexemes,
      op.placeholder_token]
  | among a b =>
    simp [lexemes, parameters, placeholderNumbers_cons, Token.placeholder?, a.placeholders_lexemes,
      b.placeholders_lexemes]
  | isNull e => simp [lexemes, parameters, placeholderNumbers_cons, Token.placeholder?, e.placeholders_lexemes]
  | isNotNull e => simp [lexemes, parameters, placeholderNumbers_cons, Token.placeholder?, e.placeholders_lexemes]
  | neg c => simp [lexemes, parameters, placeholderNumbers_cons, Token.placeholder?, placeholders_lexemes c]
  | group join parts =>
    simp [lexemes, parameters, placeholderNumbers_cons, Token.placeholder?, parametersAll_eq,
      placeholders_join join (placeholders_lexemesAll parts)]

theorem placeholders_lexemesAll (cs : List (Condition Operand)) :
    ∀ c ∈ cs, placeholderNumbers (Lexeme.tokens (lexemes c)) = parameters c := by
  cases cs with
  | nil => simp
  | cons c cs =>
    rw [List.forall_mem_cons]
    exact ⟨placeholders_lexemes c, placeholders_lexemesAll cs⟩

end

/-- the placeholders in the text of a condition -/
theorem placeholdersIn_text (c : Condition Operand) : placeholdersIn (c.text Operand.text) = some c.parameters := by
  rw [placeholdersIn, scan_text, Option.map_some, placeholders_lexemes]

/-- conditions side by side frame each of them -/
theorem framed_listLexemes (cs : List (Condition Operand)) :
    Framed (cs.flatMap fun c => Lexeme.tokens (lexemes c)) (Lexeme.tokens (listLexemes cs)) := by
  rw [listLexemes, Lexeme.tokens_intercalate, lexemesAll_eq, List.map_map]
  exact .intercalate _ rfl _ _ cs fun c _ => .refl _

end Condition

/-! ## Parameters of statements -/

/-- the tokens of the conditions of a restriction, one after the other -/
def Restriction.conditionTokens (rows : Restriction) : List Token :=
  (rows.getD []).flatMap fun c => Lexeme.tokens c.lexemes

theorem Restriction.framed_clauses (rows : Restriction) (rest : List (Option (List Lexeme)))
    (h : placeholderNumbers (Lexeme.tokens (Lexeme.clauses rest)) = []) :
    Framed (Restriction.conditionTokens rows)
      (Lexeme.tokens (Lexeme.clauses (Restriction.clause? rows :: rest))) := by
  cases rows with
  | none => exact .empty h
  | some cs =>
    have list := Framed.behind h (Condition.framed_listLexemes cs)
    simpa [clause?, conditionTokens, Lexeme.clauses] using Framed.frame (t := .word "WHERE") rfl list

theorem Lexeme.placeholders_list {α : Type} {f : α → List Lexeme} (as : List α)
    (h : ∀ a ∈ as, placeholderNumbers (tokens (f a)) = []) :
    placeholderNumbers (tokens (comma.intercalate (as.map f))) = [] := by
  have framed := Framed.intercalate (tokens comma) rfl (fun _ => []) (fun a => tokens (f a)) as
    fun a ha => .empty (h a ha)
  have nothing : (as.flatMap fun _ => ([] : List Token)) = [] := List.flatMap_eq_nil_iff.mpr fun _ _ => rfl
  rw [nothing] at framed
  rw [tokens_intercalate, List.map_map]
  exact framed.placeholders.symm

theorem Lexeme.placeholders_names (ns : List String) : placeholderNumbers (tokens (names ns)) = [] :=
  placeholders_list ns fun _ _ => rfl

/-- sort keys, limit and offset bind nothing -/
theorem placeholders_window {order : Option (List SortKey)}
    (h : ∀ keys, order = some keys → ∀ k ∈ keys, k.operand.parameters = []) (limit offset : Option Nat) :
    placeholderNumbers (Lexeme.tokens (Lexeme.clauses
      [order.map orderClause, countClause? "LIMIT" limit, countClause? "OFFSET" offset])) = [] := by
  have keys : ∀ keys, order = some keys → placeholderNumbers (Lexeme.tokens (orderClause keys)) = [] := by
    intro keys hk
    have list := Lexeme.placeholders_list (f := SortKey.lexemes) keys fun k hmem => by
      simp [SortKey.lexemes, placeholderNumbers_cons, Token.placeholder?, k.operand.placeholders_lexemes,
        h keys hk k hmem]
    simp [orderClause, placeholderNumbers_cons, Token.placeholder?, list]
  cases order <;> cases limit <;> cases offset <;>
    simp [Lexeme.clauses, countClause?, placeholderNumbers_cons, Token.placeholder?, keys]

theorem Select.framed_lexemes (s : Select)
    (h : ∀ keys, s.order = some keys → ∀ k ∈ keys, k.operand.parameters = []) :
    Framed (Restriction.conditionTokens s.rows) (Lexeme.tokens s.lexemes) := by
  have clauses := Restriction.framed_clauses s.rows _ (placeholders_window h s.limit s.offset)
  have head := Framed.frame (t := .word "FROM") rfl (.frame (t := .identifier s.table) rfl clauses)
  have columns := Framed.before (Lexeme.placeholders_names s.columns) head
  unfold lexemes
  cases s.distinct with
  | false => simpa using Framed.frame (t := .word "SELECT") rfl columns
  | true =>
    simpa using Framed.frame (t := .word "SELECT") rfl (.frame (t := .word "DISTINCT") rfl columns)

namespace Statement

theorem framed_count (table : String) (rows : Restriction) :
    Framed (Restriction.conditionTokens rows) (Lexeme.tokens (count table rows).lexemes) := by
  have clauses := Restriction.framed_clauses rows [] rfl
  have head : placeholderNumbers
      [.word "SELECT", .word "COUNT", .opening, .sign "*", .closing, .word "FROM", .identifier table] = [] := rfl
  simpa [lexemes] using clauses.before head

theorem framed_countOf {inner : List Token} {s : Select} (h : Framed inner (Lexeme.tokens s.lexemes)) :
    Framed inner (Lexeme.tokens (countOf s).lexemes) := by
  have tail : placeholderNumbers [.closing, .word "AS", .identifier "_sub"] = [] := rfl
  have head : placeholderNumbers
      [.word "SELECT", .word "COUNT", .opening, .sign "*", .closing, .word "FROM", .opening] = [] := rfl
  simpa [lexemes] using (h.behind tail).before head

theorem framed_explain {inner : List Token} {s : Select} (h : Framed inner (Lexeme.tokens s.lexemes)) :
    Framed inner (Lexeme.tokens (explain s).lexemes) := by
  have head : placeholderNumbers [.word "EXPLAIN", .opening, .word "FORMAT", .word "JSON", .closing] = [] := rfl
  simpa [lexemes] using h.before head

theorem framed_update (table : String) (assignments : List (String × Nat)) (rows : Restriction) :
    Framed ((assignments.flatMap fun a => Lexeme.tokens (assignmentLexemes a)) ++ Restriction.conditionTokens rows)
      (Lexeme.tokens (update table assignments rows).lexemes) := by
  have clauses := Restriction.framed_clauses rows [] rfl
  have sets := Framed.intercalate (Lexeme.tokens Lexeme.comma) rfl
    (fun a => Lexeme.tokens (assignmentLexemes a)) (fun a => Lexeme.tokens (assignmentLexemes a)) assignments
    fun a _ => .refl _
  have head : placeholderNumbers [.word "UPDATE", .identifier table, .word "SET"] = [] := rfl
  simpa [lexemes, Lexeme.tokens_intercalate, List.map_map, Function.comp_def] using (sets.append clauses).before head

theorem framed_delete (table : String) (rows : Restriction) :
    Framed (Restriction.conditionTokens rows) (Lexeme.tokens (delete table rows).lexemes) := by
  have clauses := Restriction.framed_clauses rows [] rfl
  have head : placeholderNumbers [.word "DELETE", .word "FROM", .identifier table] = [] := rfl
  simpa [lexemes] using clauses.before head

end Statement

end Tabula.Sql
