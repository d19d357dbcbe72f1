import Tabula.Filter.Path
import Tabula.Proofs.Database.Values
import Tabula.Proofs.Sql.Written
/-!
# What paths select

The text of an operand is read as the database reads it: token by token from left to right, each arrow applied to what
the tokens before it select.  An arrow takes a member from an object if a name stands behind it, an element from an
array if a number does, and nothing from any other document; so the text of a segment decides which of the two it can
find.  `JsonPath.selects`: the texts of a path select the document at its end and the text of this document.
-/

namespace Tabula

/-! ## Parts of documents -/

namespace Json

/-- the member of an object with this name -/
def member? (name : String) : Json → Option Json
  | obj members => Keyed.find? name members
  | _ => none

/-- the element of an array at this index -/
def element? (i : Nat) : Json → Option Json
  | arr items => items[i]?
  | _ => none

/-- a segment of decimal digits is an index, any other one a name -/
theorem step_eq (segment : String) (d : Json) :
    d.step? segment =
      match Text.natOfText? segment.toList with
      | some i => d.element? i
      | none => d.member? segment := by
  cases d <;> cases h : Text.natOfText? segment.toList <;> simp [step?, element?, member?, h]

/-- the part of a document with this name: a member of an object, or an element of an array by its decimal index -/
def part? (name : String) : Json → Option Json
  | obj members => Keyed.find? name members
  | arr items => (Text.natOfText? name.toList).bind fun i => items[i]?
  | _ => none

/-- what one part after the other leads to -/
def reached? (d : Json) (names : List String) : Option Json := names.foldlM (fun d name => d.part? name) d

/-- on the way along these names a decimal one is looked up in an object -/
inductive AsksObject : Json → List String → Prop where
  | here {members : List (String × Json)} {name : String} {rest : List String}
    (decimal : (Text.natOfText? name.toList).isSome = true) : AsksObject (obj members) (name :: rest)
  | later {d part : Json} {name : String} {rest : List String} (found : d.part? name = some part)
    (asks : AsksObject part rest) : AsksObject d (name :: rest)

variable {d : Json} {name : String} {names : List String}

theorem step_of_asks_not (h : ¬d.AsksObject (name :: names)) : d.step? name = d.part? name := by
  cases d with
  | obj members =>
    have plain : (Text.natOfText? name.toList).isSome ≠ true := fun decimal => h (.here decimal)
    rw [step?, if_neg plain, part?]
  | _ => rfl

/-- a step never leads to another part than the one of its name -/
theorem part_of_step {part : Json} (h : d.step? name = some part) : d.part? name = some part := by
  cases d with
  | obj members =>
    rw [step?] at h
    split at h
    · cases h
    · exact h
  | _ => exact h

/-- where no decimal name is looked up in an object, steps lead to the parts of their names -/
theorem at_of_asks_not (h : ¬d.AsksObject names) : d.at? names = d.reached? names := by
  induction names generalizing d with
  | nil => rfl
  | cons name rest ih =>
    rw [at?, reached?, List.foldlM_cons, List.foldlM_cons, step_of_asks_not h]
    cases found : d.part? name with
    | none => rfl
    | some part => exact ih fun asks => h (.later found asks)

/-- no step takes a decimal name from an object -/
theorem at_of_asks (h : d.AsksObject names) : d.at? names = none := by
  induction h with
  | here decimal => rw [at?, List.foldlM_cons, step?, if_pos decimal]; rfl
  | @later d part name rest found asks ih =>
    rw [at?, List.foldlM_cons]
    cases stepped : d.step? name with
    | none => rfl
    | some other =>
      obtain rfl : other = part := Option.some.inj ((part_of_step stepped).symm.trans found)
      exact ih

end Json

/-! ## Reading operands -/

namespace Sql

/-- what an operand selects in a row; no document is NULL -/
inductive Selected (δ : Type) where
  | document (d : Option Json)
  | text (t : δ)

/-- what a token behind an arrow takes from a document: a literal is the name of a member, a number the index of an
element, which has to be an `integer` -/
def Token.taken? : Token → Option (Json → Option Json)
  | literal name => some (Json.member? name)
  | number digits => do
    let i ← Text.natOfText? digits.toList
    if i < Nat.pow 2 31 then some (Json.element? i) else none
  | _ => none

variable {δ : Type}

/-- what arrows select from a document, from left to right; none if this cannot be read -/
def selectFrom? (asText : Option Json → δ) (d : Option Json) : List Token → Option (Selected δ)
  | [] => some (.document d)
  | [_] => none
  | arrow :: t :: rest =>
    if arrow = .sign "->" then do
      let take ← t.taken?
      selectFrom? asText (d.bind take) rest
    else if rest ≠ [] then none
    else if arrow = .sign "->>" then do
      let take ← t.taken?
      some (.text (asText (d.bind take)))
    else if arrow = .sign "#>>" ∧ t = .literal "\x7b\x7d" then some (.text (asText d))
    else none

/-- what the text of an operand selects in a row whose columns hold documents -/
def selected? (asText : Option Json → δ) (columns : String → Option Json) (text : String) : Option (Selected δ) :=
  match scan text with
  | some (.identifier name :: rest) => selectFrom? asText (columns name) rest
  | _ => none

/-- a segment can be an index of an array: if it is a number, this is an `integer` -/
def IsShort (segment : String) : Prop := ∀ i ∈ Text.natOfText? segment.toList, i < Nat.pow 2 31

instance (segment : String) : Decidable (IsShort segment) :=
  inferInstanceAs (Decidable (∀ i ∈ Text.natOfText? segment.toList, i < Nat.pow 2 31))

theorem taken_segmentToken {segment : String} (short : IsShort segment) :
    (segmentToken segment).taken? = some (Json.step? segment) := by
  have takes : Json.step? segment =
      match Text.natOfText? segment.toList with
      | some i => Json.element? i
      | none => Json.member? segment := by
    funext d
    rw [Json.step_eq]
    cases Text.natOfText? segment.toList <;> rfl
  unfold segmentToken
  split
  · next digits =>
    have number : Text.natOfText? segment.toList = some (Text.natOfDigits segment.toList) := by
      rw [Text.natOfText?, if_neg]
      simpa using digits
    rw [Token.taken?, takes, number]
    exact if_pos (short _ number)
  · next other =>
    have name : Text.natOfText? segment.toList = none := by
      rw [Text.natOfText?, if_pos]
      simpa [or_iff_not_imp_left] using other
    simp [Token.taken?, takes, name]

/-- the steps of a path lead from a document to the one at its end -/
theorem selectFrom_steps (asText : Option Json → δ) (d : Option Json) {segments : List String}
    (short : ∀ s ∈ segments, IsShort s) (rest : List Token) :
    selectFrom? asText d (Lexeme.tokens (stepLexemes (documentSteps segments)) ++ rest) =
      selectFrom? asText (d.bind (·.at? segments)) rest := by
  induction segments generalizing d with
  | nil =>
    have whole : d.bind (·.at? []) = d := by cases d <;> rfl
    rw [whole]
    rfl
  | cons segment segments ih =>
    have first := taken_segmentToken (short segment List.mem_cons_self)
    have split : d.bind (·.at? (segment :: segments)) = (d.bind (Json.step? segment)).bind (·.at? segments) := by
      cases d <;> rfl
    rw [split, ← ih _ fun s mem => short s (List.mem_cons_of_mem _ mem)]
    simp [documentSteps, stepLexemes, selectFrom?, first]

theorem scan_operand (e : Operand) : scan e.text = some (Lexeme.tokens e.lexemes) := by
  rw [← Lexeme.text_eq e.chars_lexemes, Lexeme.scan_text e.written_lexemes]

end Sql

/-! ## The texts of a path -/

namespace JsonPath

open Sql (Selected selected? selectFrom? IsShort)

variable {δ : Type} (p : JsonPath) (asText : Option Json → δ) (columns : String → Option Json)

theorem selected_value (short : ∀ s ∈ p.segments, IsShort s) :
    selected? asText columns p.value.text = some (.document ((columns p.column).bind (·.at? p.segments))) := by
  have steps := Sql.selectFrom_steps asText (columns p.column) short []
  rw [List.append_nil] at steps
  rw [selected?, Sql.scan_operand, value]
  exact steps

/-- the last arrow is one to the text -/
theorem selected_valueText (short : ∀ s ∈ p.segments, IsShort s) :
    selected? asText columns p.valueText.text = some (.text (asText ((columns p.column).bind (·.at? p.segments)))) := by
  rw [selected?, Sql.scan_operand, valueText, Sql.Operand.lexemes]
  cases ending : p.segments.getLast? with
  | none =>
    have whole : (columns p.column).bind (·.at? p.segments) = columns p.column := by
      rw [List.getLast?_eq_none_iff.mp ending]
      cases columns p.column <;> rfl
    rw [whole]
    rfl
  | some last =>
    obtain ⟨front, whole⟩ := List.getLast?_eq_some_iff.mp ending
    rw [whole] at short ⊢
    have before : ∀ s ∈ front, IsShort s := fun s mem => short s (List.mem_append_left _ mem)
    have behind := Sql.taken_segmentToken (short last (by simp))
    have steps := Sql.selectFrom_steps asText (columns p.column) before [.sign "->>", Sql.segmentToken last]
    have split : (columns p.column).bind (·.at? (front ++ [last])) =
        ((columns p.column).bind (·.at? front)).bind (Json.step? last) := by
      cases columns p.column <;> simp [Json.at?]
    rw [List.dropLast_concat, split]
    simp only [Sql.stepLexemes_append, Sql.Lexeme.tokens_token, Sql.Lexeme.tokens_append]
    refine Eq.trans steps ?_
    simp [selectFrom?, behind]

/-- **A path selects the document at its end, and the text of the same document.**  This document is what following the
segments one by one leads to, members of objects by their names and elements of arrays by their decimal indexes, except
that no member of an object is found by a decimal name: where the way asks for one, nothing is selected. -/
theorem selects (short : ∀ s ∈ p.segments, IsShort s) :
    let selection := (columns p.column).bind (·.at? p.segments)
    selected? asText columns p.value.text = some (.document selection) ∧
    selected? asText columns p.valueText.text = some (.text (asText selection)) ∧
    ∀ d, columns p.column = some d →
      (¬d.AsksObject p.segments → selection = d.reached? p.segments) ∧
      (d.AsksObject p.segments → selection = none) := by
  refine ⟨p.selected_value asText columns short, p.selected_valueText asText columns short, fun d here => ?_⟩
  rw [here]
  exact ⟨Json.at_of_asks_not, Json.at_of_asks⟩

/-- the text of a document: that of a string is what it holds, and null has none -/
def textOf : Option Json → Option String
  | some (.str s) => some s
  | none | some .null => none
  | some d => some d.text

/-- the first tag of a note -/
theorem selects_tag : selected? textOf (fun _ => some (.obj [("tags", .arr [.str "book"])]))
    (valueText ⟨"data", "data", ["tags", "0"]⟩).text = some (.text (some "book")) :=
  (selects ⟨"data", "data", ["tags", "0"]⟩ textOf _ (by decide)).2.1

/-- a member whose name is a number is not found, and a number that is too long for an index cannot be read -/
theorem unselected_year :
    selected? textOf (fun _ => some (.obj [("2024", .int 1)])) (value ⟨"data", "data", ["2024"]⟩).text =
      some (.document none) ∧
    (Json.obj [("2024", .int 1)]).reached? ["2024"] = some (.int 1) ∧
    selected? textOf (fun _ => some (.arr [])) (value ⟨"data", "data", ["2147483648"]⟩).text = none ∧
    (Json.arr []).reached? ["2147483648"] = none := by
  refine ⟨?_, rfl, ?_, rfl⟩
  · rfl
  · rfl

end JsonPath

end Tabula
