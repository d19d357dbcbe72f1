import Tabula.Filter.Lookup
import Mathlib.Data.List.Infix
/-!
# What patterns match

LIKE as the database has it: a pattern is taken apart into pieces, and a text matches if it can be cut to fit them.
`Wildcard.like_chars`: the pattern that is made for a text finds just this text, where its wildcards leave room for it,
and `Wildcard.map_chars`: so it does when both sides are brought into capitals.
-/

namespace Tabula.Sql

/-! ## Patterns and texts -/

/-- a piece of a pattern -/
inductive PatternPart where
  | anyText
  | anyChar
  | exactly (c : Char)
  deriving DecidableEq

/-- the pieces of a pattern; none if it ends in a backslash that has nothing to take the meaning from -/
def patternParts? : List Char → Option (List PatternPart)
  | [] => some []
  | c :: rest =>
    if c = '\\' then
      match rest with
      | [] => none
      | d :: rest => (patternParts? rest).map (.exactly d :: ·)
    else if c = '%' then (patternParts? rest).map (.anyText :: ·)
    else if c = '_' then (patternParts? rest).map (.anyChar :: ·)
    else (patternParts? rest).map (.exactly c :: ·)

/-- whether a text can be cut to fit the pieces; for a wildcard every cut is tried -/
def fits : List PatternPart → List Char → Bool
  | [], t => t.isEmpty
  | .anyText :: parts, t => t.tails.any (fits parts)
  | .anyChar :: parts, t =>
    match t with
    | [] => false
    | _ :: t => fits parts t
  | .exactly c :: parts, t =>
    match t with
    | [] => false
    | d :: t => c == d && fits parts t

/-- whether a text matches a pattern; none if the pattern cannot be read -/
def like? (pattern text : List Char) : Option Bool := (patternParts? pattern).map (fits · text)

example : like? "a%_\\%".toList "abc%".toList = some true := by decide +kernel

/-! ## Pieces that stand for themselves -/

theorem patternParts_char (c : Char) (rest : List Char) :
    patternParts? (patternChar c ++ rest) = (patternParts? rest).map (.exactly c :: ·) := by
  cases mark : isPatternMark c with
  | true => simp [patternChar, mark, patternParts?]
  | false =>
    have itself : patternChar c = [c] := by simp [patternChar, mark]
    simp only [isPatternMark, Bool.or_eq_false_iff, beq_eq_false_iff_ne] at mark
    obtain ⟨⟨escape, percent⟩, underscore⟩ := mark
    rw [itself, List.singleton_append, patternParts?.eq_def]
    simp [escape, percent, underscore]

theorem patternParts_percent (rest : List Char) :
    patternParts? ('%' :: rest) = (patternParts? rest).map (.anyText :: ·) := by
  rw [patternParts?.eq_def]
  simp

/-- an escaped text is read as itself -/
theorem patternParts_escaped (s rest : List Char) :
    patternParts? (s.flatMap patternChar ++ rest) = (patternParts? rest).map (s.map .exactly ++ ·) := by
  induction s with
  | nil => simp
  | cons c s ih =>
    rw [List.flatMap_cons, List.append_assoc, patternParts_char, ih, Option.map_map]
    rfl

theorem fits_exactly (s : List Char) (parts : List PatternPart) (t : List Char) :
    fits (s.map .exactly ++ parts) t = true ↔ ∃ u, t = s ++ u ∧ fits parts u = true := by
  induction s generalizing t with
  | nil => simp
  | cons c s ih =>
    cases t with
    | nil => simp [fits]
    | cons d t =>
      rw [List.map_cons, List.cons_append, fits, Bool.and_eq_true, ih, beq_iff_eq]
      constructor
      · rintro ⟨rfl, u, rfl, rest⟩
        exact ⟨u, rfl, rest⟩
      · rintro ⟨u, same, rest⟩
        obtain ⟨rfl, rfl⟩ := List.cons.inj same
        exact ⟨rfl, u, rfl, rest⟩

theorem fits_anyText (parts : List PatternPart) (t : List Char) :
    fits (.anyText :: parts) t = true ↔ ∃ u, u <:+ t ∧ fits parts u = true := by
  simp [fits, List.any_eq_true]

theorem fits_any (t : List Char) : fits [.anyText] t = true :=
  (fits_anyText [] t).mpr ⟨[], List.nil_suffix, rfl⟩

/-! ## Texts in other case -/

/-- whether a map of characters leaves those alone that have a meaning in patterns, and makes none of them -/
def KeepsMarks (f : Char → Char) : Prop := ∀ m, isPatternMark m = true → ∀ c, f c = m ↔ c = m

theorem isPatternMark_map {f : Char → Char} (keeps : KeepsMarks f) (c : Char) :
    isPatternMark (f c) = isPatternMark c := by
  rw [Bool.eq_iff_iff]
  constructor
  · intro mark
    have same := (keeps _ mark c).mp rfl
    rwa [← same] at mark
  · intro mark
    rwa [(keeps c mark c).mpr rfl]

theorem map_patternChar {f : Char → Char} (keeps : KeepsMarks f) (c : Char) :
    (patternChar c).map f = patternChar (f c) := by
  have escape : f '\\' = '\\' := (keeps '\\' (by decide) '\\').mpr rfl
  unfold patternChar
  rw [isPatternMark_map keeps]
  split <;> simp [escape]

/-- an escaped text in other case is the text in this case, escaped -/
theorem map_escaped {f : Char → Char} (keeps : KeepsMarks f) (s : List Char) :
    (s.flatMap patternChar).map f = (s.map f).flatMap patternChar := by
  rw [List.map_flatMap, List.flatMap_map]
  exact List.flatMap_congr fun c _ => map_patternChar keeps c

/-- capitals are made of small letters, and no mark is one of these or a capital -/
theorem keepsMarks_toUpper : KeepsMarks Char.toUpper := by
  intro m mark c
  have marks : m = '\\' ∨ m = '%' ∨ m = '_' := by
    simpa [isPatternMark, or_assoc] using mark
  unfold Char.toUpper
  split
  · next small =>
    obtain ⟨lower, upper⟩ := small
    rw [UInt32.le_iff_toNat_le] at lower upper
    simp only [Char.ext_iff, UInt32.ext_iff, UInt32.toNat_add]
    have first : 'a'.val.toNat = 97 := rfl
    have last : 'z'.val.toNat = 122 := rfl
    have step : ('A'.val - 'a'.val).toNat = 4294967264 := rfl
    have outside : m.val.toNat = 92 ∨ m.val.toNat = 37 ∨ m.val.toNat = 95 := by
      rcases marks with rfl | rfl | rfl <;> decide
    omega
  · rfl

end Sql

/-! ## Patterns around a text -/

open Sql (KeepsMarks fits like? patternChar patternParts?)

namespace Wildcard

/-- whether a text has another where a pattern leaves room for it -/
def Finds (w : Wildcard) (s t : List Char) : Prop :=
  match w with
  | contains => s <:+: t
  | startsWith => s <+: t
  | endsWith => s <:+ t

instance (w : Wildcard) (s t : List Char) : Decidable (w.Finds s t) :=
  match w with
  | contains => inferInstanceAs (Decidable (s <:+: t))
  | startsWith => inferInstanceAs (Decidable (s <+: t))
  | endsWith => inferInstanceAs (Decidable (s <:+ t))

/-- the pattern for a text, character by character -/
def chars (w : Wildcard) (s : List Char) : List Char :=
  match w with
  | contains => '%' :: (s.flatMap patternChar ++ ['%'])
  | startsWith => s.flatMap patternChar ++ ['%']
  | endsWith => '%' :: s.flatMap patternChar

theorem toList_around (w : Wildcard) (s : String) : (w.around s).toList = w.chars s.toList := by
  cases w <;> simp [around, chars, Sql.patternOf]

/-- the pieces of a pattern around a text -/
def parts (w : Wildcard) (s : List Char) : List Sql.PatternPart :=
  match w with
  | contains => .anyText :: (s.map .exactly ++ [.anyText])
  | startsWith => s.map .exactly ++ [.anyText]
  | endsWith => .anyText :: s.map .exactly

theorem patternParts_chars (w : Wildcard) (s : List Char) : patternParts? (w.chars s) = some (w.parts s) := by
  have nothing : patternParts? [] = some [] := rfl
  have alone := Sql.patternParts_escaped s []
  rw [List.append_nil] at alone
  cases w with
  | contains => simp [chars, parts, Sql.patternParts_percent, Sql.patternParts_escaped, nothing]
  | startsWith => simp [chars, parts, Sql.patternParts_percent, Sql.patternParts_escaped, nothing]
  | endsWith => simp [chars, parts, Sql.patternParts_percent, alone, nothing]

theorem fits_parts (w : Wildcard) (s t : List Char) : fits (w.parts s) t = true ↔ w.Finds s t := by
  have start (t : List Char) : fits (s.map .exactly ++ [.anyText]) t = true ↔ s <+: t := by
    rw [Sql.fits_exactly]
    constructor
    · rintro ⟨u, rfl, _⟩
      exact List.prefix_append s u
    · rintro ⟨u, rfl⟩
      exact ⟨u, rfl, Sql.fits_any u⟩
  have whole (t : List Char) : fits (s.map .exactly) t = true ↔ t = s := by
    have exact := Sql.fits_exactly s [] t
    simpa [fits] using exact
  cases w with
  | contains =>
    rw [parts, Sql.fits_anyText]
    simp only [start, and_comm]
    exact List.infix_iff_prefix_suffix.symm
  | startsWith => exact start t
  | endsWith => simp [parts, Sql.fits_anyText, whole, Finds]

/-- **A pattern finds just its text.**  The pattern around a text can be read, and what it matches are the texts that
have this text where the wildcards leave room for it. -/
theorem like_chars (w : Wildcard) (s t : List Char) : like? (w.chars s) t = some (decide (w.Finds s t)) := by
  rw [like?, patternParts_chars, Option.map_some, Option.some.injEq, Bool.eq_iff_iff, fits_parts, decide_eq_true_iff]

/-- a pattern in other case is the pattern of the text in this case -/
theorem map_chars {f : Char → Char} (keeps : KeepsMarks f) (w : Wildcard) (s : List Char) :
    (w.chars s).map f = w.chars (s.map f) := by
  have percent : f '%' = '%' := (keeps '%' (by decide) '%').mpr rfl
  cases w <;> simp [chars, Sql.map_escaped keeps, percent]

end Wildcard

end Tabula
