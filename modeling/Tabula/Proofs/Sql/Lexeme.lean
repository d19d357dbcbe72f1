import Tabula.Proofs.Sql.Token
import Mathlib.Data.List.Chain
/-!
# Writing tokens

A text that is written token by token, with a blank between two tokens that would run together, is scanned back into
these tokens: `scan_text`.
-/

namespace Tabula.Sql

/-! ## Classes of characters -/

theorem not_isDigit_of_isLetter {c : Char} (h : isLetter c = true) : c.isDigit = false := by
  delta isLetter Char.isAlpha Char.isUpper Char.isLower at h
  simp only [Bool.or_eq_true, Bool.and_eq_true, decide_eq_true_eq, beq_iff_eq, ge_iff_le,
    UInt32.le_iff_toNat_le] at h
  simp only [Char.isDigit, Bool.and_eq_false_iff, decide_eq_false_iff_not, ge_iff_le, UInt32.le_iff_toNat_le]
  rcases h with ((h | h) | rfl) | h
  · simp at h ⊢; omega
  · simp at h ⊢; omega
  · decide
  · simp; omega

theorem charClass_digit {c : Char} (h : c.isDigit = true) : charClass c = .digit := if_pos h

theorem charClass_letter {c : Char} (h : isLetter c = true) : charClass c = .letter := by
  simp [charClass, not_isDigit_of_isLetter h, h]

theorem charClass_nameQuote : charClass '"' = .nameQuote := by decide

theorem charClass_textQuote : charClass '\'' = .textQuote := by decide

theorem charClass_dollar : charClass '$' = .dollar := by decide

theorem charClass_space : charClass ' ' = .blank := by decide

theorem isBlank_eq_false {c : Char} (h : charClass c ≠ .blank) (h' : charClass c ≠ .newline) : isBlank c = false := by
  simp [isBlank, h, h']

/-! ## Lexemes -/

/-- a token, or the blank between two -/
inductive Lexeme where
  | blank
  | token (t : Token)

namespace Token

/-- the characters of a token -/
def chars : Token → List Char
  | word w => w.toList
  | identifier n => (Sql.identifier n).toList
  | literal s => (Sql.literal s).toList
  | parameter n => '$' :: Nat.toDigits 10 n
  | number ds => ds.toList
  | sign s => s.toList
  | opening => ['(']
  | closing => [')']
  | comma => [',']

/-- whether a text is a letter, then letters and digits -/
def isWord : List Char → Bool
  | [] => false
  | c :: rest => isLetter c && rest.all fun d => isLetter d || d.isDigit

/-- whether the characters of a token are of its kind -/
def isSound : Token → Bool
  | word w => isWord w.toList
  | number ds => !ds.toList.isEmpty && ds.toList.all Char.isDigit
  | sign s => !s.toList.isEmpty && s.toList.all (charClass · = .sign) && !opensComment s.toList
  | _ => true

@[simp] theorem isSound_identifier (n : String) : (identifier n).isSound = true := rfl

@[simp] theorem isSound_literal (s : String) : (literal s).isSound = true := rfl

@[simp] theorem isSound_parameter (n : Nat) : (parameter n).isSound = true := rfl

/-- the class of the first character of a token -/
def firstClass : Token → CharClass
  | word _ => .letter
  | identifier _ => .nameQuote
  | literal _ => .textQuote
  | parameter _ => .dollar
  | number _ => .digit
  | sign _ => .sign
  | opening => .opening
  | closing => .closing
  | comma => .comma

/-- whether a token ends where a character of some class follows -/
def endsBefore (next : CharClass) : Token → Bool
  | word _ => next ≠ .letter && next ≠ .digit && next ≠ .dollar && next ≠ .nameQuote && next ≠ .textQuote
  | number _ | parameter _ => next ≠ .letter && next ≠ .digit && next ≠ .dollar
  | identifier _ => next ≠ .nameQuote
  | literal _ => next ≠ .textQuote
  | sign _ => next ≠ .sign
  | opening | closing | comma => true

/-- what the scanner is in the middle of after a token -/
def pending : Token → Pending
  | word w => .word w.toList
  | identifier n => .closed '"' n.toList
  | literal s => .closed '\'' s.toList
  | parameter n => .parameter (Nat.toDigits 10 n)
  | number ds => .number ds.toList
  | sign s => .sign s.toList
  | opening | closing | comma => .nothing

/-- the tokens that are complete when the scanner has read a token -/
def done : Token → List Token
  | opening => [opening]
  | closing => [closing]
  | comma => [comma]
  | _ => []

theorem tokens_pending {t : Token} (h : t.isSound = true) :
    t.pending.tokens? = some (if t.done.isEmpty then [t] else []) := by
  cases t with
  | sign s =>
    simp only [isSound, Bool.and_eq_true, Bool.not_eq_true'] at h
    simp [pending, done, Pending.tokens?, h.2]
  | parameter n => simp [pending, done, Pending.tokens?, Nat.toDigits_ne_nil]
  | _ => simp [pending, done, Pending.tokens?, quotedToken]

/-! ### Reading one token -/

theorem run_quoted (q : Char) (body rest : List Char) :
    (Pending.quoted q body).run (doubled q rest) = some ([], .quoted q (body ++ rest)) := by
  induction rest generalizing body with
  | nil => simp [doubled, Pending.run]
  | cons c rest ih =>
    by_cases h : c = q
    · subst h
      simp [doubled, Pending.run, Pending.step, ih]
    · simp [doubled, h, Pending.run, Pending.step, ih]

theorem run_enclosed {q : Char} (h : Pending.start q = some ([], .quoted q [])) (s : String) :
    Pending.nothing.run (enclosed q s).toList = some ([], .closed q s.toList) := by
  have inner := run_quoted q [] s.toList
  simp [enclosed, Pending.run, Pending.step, h, Pending.run_append, inner]

/-- a pending token takes in every character of `s` -/
theorem run_extend (make : List Char → Pending) (s : List Char)
    (h : ∀ text, ∀ c ∈ s, (make text).step c = some ([], make (text ++ [c]))) (text : List Char) :
    (make text).run s = some ([], make (text ++ s)) := by
  induction s generalizing text with
  | nil => simp [Pending.run]
  | cons c s ih =>
    have ih := ih (fun text d hd => h text d (List.mem_cons_of_mem _ hd)) (text ++ [c])
    simp [Pending.run, h text c (List.mem_cons_self ..), ih]

/-- the characters of a word, a number or a sign -/
theorem chars_cons {t : Token} (h : t.isSound = true) : ∃ c rest, t.chars = c :: rest ∧ charClass c = t.firstClass := by
  cases t with
  | word w =>
    cases hw : w.toList with
    | nil => simp [isSound, isWord, hw] at h
    | cons c rest =>
      simp only [isSound, hw, isWord, Bool.and_eq_true] at h
      exact ⟨c, rest, hw, charClass_letter h.1⟩
  | number ds =>
    cases hd : ds.toList with
    | nil => simp [isSound, hd] at h
    | cons c rest =>
      simp only [isSound, hd, Bool.and_eq_true, List.all_cons] at h
      exact ⟨c, rest, hd, charClass_digit h.2.1⟩
  | sign s =>
    cases hs : s.toList with
    | nil => simp [isSound, hs] at h
    | cons c rest =>
      simp only [isSound, hs, Bool.and_eq_true, List.all_cons, decide_eq_true_eq] at h
      exact ⟨c, rest, hs, h.1.2.1⟩
  | identifier n => exact ⟨'"', _, String.toList_ofList, charClass_nameQuote⟩
  | literal s => exact ⟨'\'', _, String.toList_ofList, charClass_textQuote⟩
  | parameter n => exact ⟨'$', _, rfl, charClass_dollar⟩
  | opening => exact ⟨'(', _, rfl, by decide⟩
  | closing => exact ⟨')', _, rfl, by decide⟩
  | comma => exact ⟨',', _, rfl, by decide⟩

/-- the scanner reads a token from its first character to its last -/
theorem run_chars {t : Token} (h : t.isSound = true) : Pending.nothing.run t.chars = some (t.done, t.pending) := by
  obtain ⟨c, rest, hc, first⟩ := chars_cons h
  cases t with
  | word w =>
    replace hc : w.toList = c :: rest := hc
    simp only [isSound, hc, isWord, Bool.and_eq_true, List.all_eq_true, Bool.or_eq_true] at h
    have extend : ∀ text, ∀ d ∈ rest, (Pending.word text).step d = some ([], .word (text ++ [d])) := by
      intro text d hd
      rcases h.2 d hd with hd | hd
      · simp [Pending.step, charClass_letter hd]
      · simp [Pending.step, charClass_digit hd]
    simp [chars, done, pending, hc, Pending.run, Pending.step, Pending.start, first, firstClass,
      run_extend .word rest extend [c]]
  | number ds =>
    replace hc : ds.toList = c :: rest := hc
    simp only [isSound, hc, Bool.and_eq_true, List.all_cons, List.all_eq_true] at h
    have extend : ∀ text, ∀ d ∈ rest, (Pending.number text).step d = some ([], .number (text ++ [d])) := by
      intro text d hd
      simp [Pending.step, charClass_digit (h.2.2 d hd)]
    simp [chars, done, pending, hc, Pending.run, Pending.step, Pending.start, first, firstClass,
      run_extend .number rest extend [c]]
  | sign s =>
    replace hc : s.toList = c :: rest := hc
    simp only [isSound, hc, Bool.and_eq_true, List.all_cons, List.all_eq_true, decide_eq_true_eq] at h
    have extend : ∀ text, ∀ d ∈ rest, (Pending.sign text).step d = some ([], .sign (text ++ [d])) := by
      intro text d hd
      simp [Pending.step, h.1.2.2 d hd]
    simp [chars, done, pending, hc, Pending.run, Pending.step, Pending.start, first, firstClass,
      run_extend .sign rest extend [c]]
  | parameter n =>
    have extend : ∀ text, ∀ d ∈ Nat.toDigits 10 n,
        (Pending.parameter text).step d = some ([], .parameter (text ++ [d])) := by
      intro text d hd
      have digit := Nat.isDigit_of_mem_toDigits (by decide) (by decide) hd
      simp [Pending.step, charClass_digit digit]
    have dollar : Pending.start '$' = some ([], .parameter []) := by decide
    simp [chars, done, pending, Pending.run, Pending.step, dollar,
      run_extend .parameter (Nat.toDigits 10 n) extend []]
  | identifier n => exact run_enclosed (by decide) n
  | literal s => exact run_enclosed (by decide) s
  | opening => decide
  | closing => decide
  | comma => decide

/-! ### Where a token ends -/

theorem renew_nothing (c : Char) : Pending.nothing.renew c = Pending.start c := by
  cases h : Pending.start c <;> simp [Pending.renew, Pending.tokens?, h]

theorem isBlank_of_firstClass {t : Token} {c : Char} (h : charClass c = t.firstClass) : isBlank c = false := by
  apply isBlank_eq_false <;> rw [h] <;> cases t <;> simp [firstClass]

/-- where a token ends, the scanner starts afresh -/
theorem step_of_endsBefore {a b : Token} {c : Char} (h : a.endsBefore b.firstClass = true)
    (hc : charClass c = b.firstClass) : a.pending.step c = a.pending.renew c := by
  rw [← hc] at h
  cases a with
  | opening => exact (renew_nothing c).symm
  | closing => exact (renew_nothing c).symm
  | comma => exact (renew_nothing c).symm
  | word w =>
    simp only [endsBefore, Bool.and_eq_true, decide_eq_true_eq] at h
    simp [pending, Pending.step, h]
  | number ds =>
    simp only [endsBefore, Bool.and_eq_true, decide_eq_true_eq] at h
    simp [pending, Pending.step, h]
  | parameter n =>
    simp only [endsBefore, Bool.and_eq_true, decide_eq_true_eq] at h
    simp [pending, Pending.step, h]
  | sign s =>
    simp only [endsBefore, decide_eq_true_eq] at h
    simp [pending, Pending.step, h]
  | identifier n =>
    have other : c ≠ '"' := by
      rintro rfl
      simp [endsBefore, charClass_nameQuote] at h
    simp [pending, Pending.step, other]
  | literal s =>
    have other : c ≠ '\'' := by
      rintro rfl
      simp [endsBefore, charClass_textQuote] at h
    simp [pending, Pending.step, other, isBlank_of_firstClass hc]

end Token

/-! ## Texts of lexemes -/

namespace Lexeme

def chars : Lexeme → List Char
  | blank => [' ']
  | token t => t.chars

def token? : Lexeme → Option Token
  | blank => none
  | token t => some t

/-- whether a lexeme can stand directly behind another -/
def meets : Lexeme → Lexeme → Bool
  | token a, token b => a.endsBefore b.firstClass
  | _, _ => true

def isSound : Lexeme → Bool
  | blank => true
  | token t => t.isSound

/-- where the scanner can be after a lexeme -/
inductive Leaves : Lexeme → Pending → Prop where
  | token (t : Token) : Leaves (token t) t.pending
  | blank : Leaves blank .nothing
  | spaced (body : List Char) : Leaves blank (.spaced body false)

/-- the tokens of several lexemes -/
def tokens (ls : List Lexeme) : List Token := ls.filterMap token?

@[simp] theorem tokens_nil : tokens [] = [] := rfl

@[simp] theorem tokens_blank (ls : List Lexeme) : tokens (blank :: ls) = tokens ls := rfl

@[simp] theorem tokens_token (t : Token) (ls : List Lexeme) : tokens (token t :: ls) = t :: tokens ls := rfl

@[simp] theorem tokens_append (ls ms : List Lexeme) : tokens (ls ++ ms) = tokens ls ++ tokens ms :=
  List.filterMap_append ..

/-- the text of several lexemes -/
def text (ls : List Lexeme) : String := String.ofList (ls.flatMap chars)

/-- lexemes that can be written one behind the other -/
structure Written (ls : List Lexeme) : Prop where
  sound : ∀ l ∈ ls, l.isSound = true
  apart : ls.IsChain fun a b => a.meets b = true

theorem run_of_renew {p : Pending} {c : Char} {done : List Token} (hc : p.step c = p.renew c)
    (hp : p.tokens? = some done) (s : List Char) :
    p.run (c :: s) = (Pending.nothing.run (c :: s)).map fun r => (done ++ r.1, r.2) := by
  have now : Pending.nothing.step c = Pending.start c := rfl
  simp only [Pending.run, hc, now, Pending.renew, hp]
  cases Pending.start c with
  | none => rfl
  | some r => cases hr : r.2.run s <;> simp [hr]

theorem renew_eq {p : Pending} {c : Char} {done more : List Token} {q : Pending} (hp : p.tokens? = some done)
    (hc : Pending.start c = some (more, q)) : p.renew c = some (done ++ more, q) := by
  simp [Pending.renew, hp, hc]

/-- a blank ends what was pending, sooner or later -/
theorem Leaves.step_blank {l : Lexeme} {p : Pending} (h : l.Leaves p) (hl : l.isSound = true) :
    ∃ done q rest, p.step ' ' = some (done, q) ∧ Leaves .blank q ∧ q.tokens? = some rest ∧
      p.tokens? = some (done ++ rest) := by
  have start : Pending.start ' ' = some ([], .nothing) := by decide
  cases h with
  | blank => exact ⟨[], .nothing, [], start, .blank, rfl, rfl⟩
  | spaced body =>
    exact ⟨[], .spaced body false, _, by simp [Pending.step, isBlank, charClass_space], .spaced body, rfl, rfl⟩
  | token t =>
    have now := Token.tokens_pending hl
    by_cases hs : ∃ s, t = .literal s
    · obtain ⟨s, rfl⟩ := hs
      refine ⟨[], .spaced s.toList false, _, ?_, .spaced _, rfl, ?_⟩
      · simp [Token.pending, Pending.step, isBlank, charClass_space]
      · rw [now]
        simp [Token.done]
    · have renew : t.pending.step ' ' = t.pending.renew ' ' := by
        cases t with
        | literal s => exact absurd ⟨s, rfl⟩ hs
        | opening => exact (Token.renew_nothing ' ').symm
        | closing => exact (Token.renew_nothing ' ').symm
        | comma => exact (Token.renew_nothing ' ').symm
        | _ => simp [Token.pending, Pending.step, charClass_space]
      exact ⟨_, .nothing, [], by rw [renew, renew_eq now start], .blank, rfl, by simp [now]⟩

/-- a token ends what was pending and is read -/
theorem Leaves.step_token {l : Lexeme} {p : Pending} {t : Token} {c : Char} (h : l.Leaves p)
    (hm : l.meets (.token t) = true) (hc : charClass c = t.firstClass) : p.step c = p.renew c := by
  cases h with
  | token a => exact Token.step_of_endsBefore hm hc
  | blank => exact (Token.renew_nothing c).symm
  | spaced body => simp [Pending.step, Token.isBlank_of_firstClass hc]

theorem Leaves.tokens_some {l : Lexeme} {p : Pending} (h : l.Leaves p) (hl : l.isSound = true) :
    ∃ done, p.tokens? = some done := by
  cases h with
  | token t => exact ⟨_, Token.tokens_pending hl⟩
  | blank => exact ⟨_, rfl⟩
  | spaced body => exact ⟨_, rfl⟩

/-- reading on after a lexeme: what was pending comes out, then the tokens of the rest -/
theorem finish_chars {l : Lexeme} {p : Pending} {ls : List Lexeme} (h : l.Leaves p) (hw : Written (l :: ls)) :
    p.finish (ls.flatMap chars) = p.tokens?.map (· ++ tokens ls) := by
  induction ls generalizing l p with
  | nil => cases hp : p.tokens? <;> simp [Pending.finish, Pending.run, tokens, hp]
  | cons m ls ih =>
    have hl := hw.sound l (by simp)
    have hm := hw.sound m (by simp)
    have hlm : l.meets m = true := (List.isChain_cons_cons.mp hw.apart).1
    have hw' : Written (m :: ls) :=
      ⟨fun x hx => hw.sound x (List.mem_cons_of_mem _ hx), (List.isChain_cons_cons.mp hw.apart).2⟩
    cases m with
    | blank =>
      obtain ⟨done, q, rest, hstep, hq, hrest, hp⟩ := h.step_blank hl
      have hrun : p.run [' '] = some (done, q) := by simp [Pending.run, hstep]
      rw [List.flatMap_cons, chars, Pending.finish_append hrun, ih hq hw', hrest, hp]
      simp
    | token t =>
      obtain ⟨c, rest, hc, hfirst⟩ := Token.chars_cons hm
      obtain ⟨done, hp⟩ := h.tokens_some hl
      have hrun : p.run t.chars = some (done ++ t.done, t.pending) := by
        have alone := Token.run_chars hm
        rw [hc] at alone ⊢
        rw [run_of_renew (h.step_token hlm hfirst) hp, alone]
        rfl
      rw [List.flatMap_cons, chars, Pending.finish_append hrun, ih (.token t) hw', Token.tokens_pending hm, hp]
      cases t <;> simp [Token.done]

/-- **What is written is read back.** -/
theorem scan_text {ls : List Lexeme} (h : Written ls) : scan (text ls) = some (tokens ls) := by
  have hw : Written (blank :: ls) := by
    refine ⟨by simpa [isSound] using h.sound, ?_⟩
    cases ls with
    | nil => exact .singleton _
    | cons l ls => exact List.isChain_cons_cons.mpr ⟨rfl, h.apart⟩
  simp [scan, text, finish_chars .blank hw, Pending.tokens?]

/-! ### Writing lexemes behind one another -/

theorem text_eq {ls : List Lexeme} {s : String} (h : ls.flatMap chars = s.toList) : text ls = s := by
  rw [text, h, String.ofList_toList]

theorem chars_intercalate (sep : List Lexeme) (lss : List (List Lexeme)) :
    (sep.intercalate lss).flatMap chars = (sep.flatMap chars).intercalate (lss.map fun ls => ls.flatMap chars) := by
  induction lss with
  | nil => rfl
  | cons ls lss ih =>
    cases lss with
    | nil => simp
    | cons ms lss =>
      rw [List.intercalate_cons_cons, List.flatMap_append, List.flatMap_append, ih]
      simp only [List.map_cons, List.intercalate_cons_cons]

theorem tokens_intercalate (sep : List Lexeme) (lss : List (List Lexeme)) :
    tokens (sep.intercalate lss) = (tokens sep).intercalate (lss.map tokens) := by
  induction lss with
  | nil => rfl
  | cons ls lss ih =>
    cases lss with
    | nil => simp
    | cons ms lss => simp [List.intercalate_cons_cons, ih]

/-- a blank or a mark: it can stand before and behind everything -/
def isGap : Lexeme → Bool
  | blank => true
  | token t => [.opening, .closing, .comma].contains t

@[simp] theorem isGap_blank : isGap blank = true := by decide

@[simp] theorem isGap_opening : isGap (token .opening) = true := by decide

@[simp] theorem isGap_closing : isGap (token .closing) = true := by decide

@[simp] theorem isGap_comma : isGap (token .comma) = true := by decide

theorem sound_of_isGap {l : Lexeme} (h : l.isGap = true) : l.isSound = true := by
  rcases l with _ | t
  · rfl
  · cases t <;> simp_all [isGap, isSound, Token.isSound]

theorem meets_of_isGap_left {l : Lexeme} (h : l.isGap = true) (m : Lexeme) : l.meets m = true := by
  rcases l with _ | t <;> rcases m with _ | u
  · rfl
  · rfl
  · rfl
  · cases t <;> simp_all [isGap, meets, Token.endsBefore]

theorem meets_of_isGap_right {l : Lexeme} (h : l.isGap = true) (m : Lexeme) : m.meets l = true := by
  rcases l with _ | t <;> rcases m with _ | u
  · rfl
  · rfl
  · rfl
  · cases t <;> cases u <;> simp_all [isGap, meets, Token.endsBefore, Token.firstClass]

@[simp] theorem written_nil : Written [] := ⟨by simp, .nil⟩

@[simp] theorem written_append_gap {g : Lexeme} (hg : g.isGap = true) (ls ms : List Lexeme) :
    Written (ls ++ g :: ms) ↔ Written ls ∧ Written ms := by
  constructor
  · intro h
    have hs := h.sound
    have ha := h.apart
    rw [List.isChain_append, List.isChain_cons] at ha
    exact ⟨⟨fun l hl => hs l (by simp [hl]), ha.1⟩, ⟨fun l hl => hs l (by simp [hl]), ha.2.1.2⟩⟩
  · rintro ⟨h, h'⟩
    constructor
    · intro l hl
      rcases List.mem_append.mp hl with hl | hl
      · exact h.sound l hl
      · rcases List.mem_cons.mp hl with rfl | hl
        · exact sound_of_isGap hg
        · exact h'.sound l hl
    · rw [List.isChain_append, List.isChain_cons]
      refine ⟨h.apart, ⟨fun m _ => meets_of_isGap_left hg m, h'.apart⟩, ?_⟩
      intro l _ m hm
      simp only [List.head?_cons, Option.mem_some_iff] at hm
      subst hm
      exact meets_of_isGap_right hg l

@[simp] theorem written_gap_cons {g : Lexeme} (hg : g.isGap = true) (ms : List Lexeme) :
    Written (g :: ms) ↔ Written ms := by
  simpa using written_append_gap hg [] ms

theorem written_cons_cons (t : Token) (l : Lexeme) (ls : List Lexeme) :
    Written (token t :: l :: ls) ↔ t.isSound = true ∧ (token t).meets l = true ∧ Written (l :: ls) := by
  constructor
  · intro h
    have ha := List.isChain_cons_cons.mp h.apart
    exact ⟨h.sound (token t) (by simp), ha.1, ⟨fun m hm => h.sound m (List.mem_cons_of_mem _ hm), ha.2⟩⟩
  · rintro ⟨ht, hm, h⟩
    refine ⟨?_, List.isChain_cons_cons.mpr ⟨hm, h.apart⟩⟩
    intro m hm'
    rcases List.mem_cons.mp hm' with rfl | hm'
    · exact ht
    · exact h.sound m hm'

@[simp] theorem written_token_gap (t : Token) {g : Lexeme} (hg : g.isGap = true) (ls : List Lexeme) :
    Written (token t :: g :: ls) ↔ t.isSound = true ∧ Written ls := by
  rw [written_cons_cons, written_gap_cons hg]
  simp [meets_of_isGap_right hg]

@[simp] theorem written_singleton (t : Token) : Written [token t] ↔ t.isSound = true :=
  ⟨fun h => h.sound (token t) (by simp), fun h => ⟨by simpa [isSound] using h, .singleton _⟩⟩

theorem written_intercalate {sep : List Lexeme} (hsep : ∀ ls ms, Written ls → Written ms → Written (ls ++ sep ++ ms))
    {lss : List (List Lexeme)} (h : ∀ ls ∈ lss, Written ls) : Written (sep.intercalate lss) := by
  induction lss with
  | nil => exact written_nil
  | cons ls lss ih =>
    cases lss with
    | nil => simpa using h ls (by simp)
    | cons ms lss =>
      rw [List.intercalate_cons_cons]
      exact hsep ls _ (h ls (by simp)) (ih fun x hx => h x (List.mem_cons_of_mem _ hx))

end Lexeme

end Tabula.Sql
