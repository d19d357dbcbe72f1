import Tabula.Proofs.Sql.Lexeme
import Mathlib.Data.List.Infix
/-!
# Scripts

A script is taken apart into statements, each of which is ended by a semicolon of its own.  A semicolon inside quotes
is part of what is quoted, any other ends a statement; a point joins two quoted names.  `statements_intercalate`:
statements one below the other are read one by one, whatever names and texts they have in them.
-/

namespace Tabula.Sql

/-! ## Reading -/

/-- a piece of a script: a token, the point between two names, or the end of a statement -/
inductive Symbol where
  | token (t : Token)
  | point
  | semicolon
  deriving DecidableEq

def Symbol.token? : Symbol → Option Token
  | token t => some t
  | _ => none

namespace Pending

/-- whether a quoted name may end here -/
def endsName : Pending → Bool
  | closed quote _ => quote = '"'
  | _ => false

/-- the mark that a character is, outside of quotes -/
def mark? (p : Pending) (c : Char) : Option Symbol :=
  if c = ';' then some .semicolon else if c = '.' && p.endsName then some .point else none

/-- one character of a script: what no token can go on with is a mark and ends what is pending -/
def scriptStep (p : Pending) (c : Char) : Option (List Symbol × Pending) :=
  match p.step c with
  | some (done, q) => some (done.map .token, q)
  | none => do
    let mark ← p.mark? c
    let done ← p.tokens?
    return (done.map .token ++ [mark], nothing)

/-- the symbols of a script that begins in the middle of `p` -/
def symbols? (p : Pending) : List Char → Option (List Symbol)
  | [] => p.tokens?.map (·.map .token)
  | c :: rest => do
    let (done, q) ← p.scriptStep c
    let more ← symbols? q rest
    return done ++ more

end Pending

/-- the statements of a script; none if the last one is not ended -/
def statements? (script : String) : Option (List (List Symbol)) := do
  let symbols ← Pending.nothing.symbols? script.toList
  let parts := symbols.splitOn .semicolon
  if parts.getLast? = some [] then some parts.dropLast else none

example : statements? "A \"b;\".\"c\";\nD ';';" = some
    [[.token (.word "A"), .token (.identifier "b;"), .point, .token (.identifier "c")],
      [.token (.word "D"), .token (.literal ";")]] := by decide +kernel

/-! ## Symbol by symbol -/

namespace Pending

theorem symbols_cons {p q : Pending} {c : Char} {done : List Symbol} (h : p.scriptStep c = some (done, q))
    (rest : List Char) : p.symbols? (c :: rest) = (q.symbols? rest).map (done ++ ·) := by
  rw [symbols?, h]
  cases hr : q.symbols? rest <;> simp [hr]

/-- where the scanner can go on, a script is read token by token -/
theorem symbols_run {p q : Pending} {s : List Char} {done : List Token} (h : p.run s = some (done, q))
    (rest : List Char) : p.symbols? (s ++ rest) = (q.symbols? rest).map (done.map .token ++ ·) := by
  induction s generalizing p done with
  | nil =>
    obtain ⟨rfl, rfl⟩ := Prod.mk.inj (Option.some.inj h)
    simp
  | cons c s ih =>
    obtain ⟨⟨first, r⟩, hc, h⟩ := Option.bind_eq_some_iff.mp h
    obtain ⟨⟨more, q'⟩, hs, h⟩ := Option.bind_eq_some_iff.mp h
    obtain ⟨rfl, rfl⟩ := Prod.mk.inj (Option.some.inj h)
    have step : p.scriptStep c = some (first.map .token, r) := by rw [scriptStep, hc]
    rw [List.cons_append, symbols_cons step, ih hs, Option.map_map]
    simp [Function.comp_def]

/-- what stands around a quoted text is a character of its own class -/
def Proper : Pending → Prop
  | quoted quote _ | closed quote _ => charClass quote ≠ .other
  | _ => True

theorem proper_start {c : Char} {done : List Token} {q : Pending} (h : start c = some (done, q)) : q.Proper := by
  unfold start at h
  split at h <;> cases h
  case h_3 quote | h_4 quote => simp [Proper, quote]
  all_goals trivial

theorem proper_renew {p q : Pending} {c : Char} {done : List Token} (h : p.renew c = some (done, q)) : q.Proper := by
  obtain ⟨ts, _, h⟩ := Option.bind_eq_some_iff.mp h
  obtain ⟨⟨more, r⟩, hr, h⟩ := Option.bind_eq_some_iff.mp h
  obtain ⟨rfl, rfl⟩ := Prod.mk.inj (Option.some.inj h)
  exact proper_start hr

theorem proper_step {p q : Pending} {c : Char} {done : List Token} (proper : p.Proper)
    (h : p.step c = some (done, q)) : q.Proper := by
  cases p with
  | nothing => exact proper_start h
  | quoted quote body =>
    cases h
    split <;> exact proper
  | closed quote body =>
    simp only [step] at h
    split at h
    · cases h
      exact proper
    · split at h
      · cases h
        trivial
      · exact proper_renew h
  | spaced body newline =>
    simp only [step] at h
    split at h
    · cases h
      trivial
    · split at h
      · next again =>
        cases h
        have quote : c = '\'' := by simp_all
        simp [Proper, quote, charClass_textQuote]
      · exact proper_renew h
  | word | number | parameter | sign =>
    simp only [step] at h
    split at h <;> first | exact proper_renew h | cases h <;> trivial

theorem proper_run {p q : Pending} {s : List Char} {done : List Token} (proper : p.Proper)
    (h : p.run s = some (done, q)) : q.Proper := by
  induction s generalizing p done with
  | nil =>
    obtain ⟨rfl, rfl⟩ := Prod.mk.inj (Option.some.inj h)
    exact proper
  | cons c s ih =>
    obtain ⟨⟨first, r⟩, hc, h⟩ := Option.bind_eq_some_iff.mp h
    obtain ⟨⟨more, q'⟩, hs, h⟩ := Option.bind_eq_some_iff.mp h
    obtain ⟨rfl, rfl⟩ := Prod.mk.inj (Option.some.inj h)
    exact ih (proper_step proper hc) hs

/-- no token can go on with a semicolon, except inside quotes -/
theorem step_semicolon {p : Pending} (proper : p.Proper) {ts : List Token} (h : p.tokens? = some ts) :
    p.step ';' = none := by
  have other : charClass ';' = .other := by decide
  have start : start ';' = none := by decide
  have renew : p.renew ';' = none := by simp [Pending.renew, start]
  have blank : isBlank ';' = false := by decide
  cases p with
  | nothing => exact start
  | quoted quote body => cases h
  | closed quote body =>
    have quotes : ';' ≠ quote := by
      rintro rfl
      exact proper other
    simp [step, quotes, blank, renew]
  | _ => simp [step, other, blank, renew]

/-- a text that is read token by token and a semicolon behind it -/
theorem symbols_finish {s : List Char} {ts : List Token} (h : nothing.finish s = some ts) (rest : List Char) :
    nothing.symbols? (s ++ ';' :: rest) = (nothing.symbols? rest).map (ts.map .token ++ .semicolon :: ·) := by
  obtain ⟨⟨done, q⟩, hrun, h⟩ := Option.bind_eq_some_iff.mp h
  obtain ⟨more, hq, same⟩ := Option.bind_eq_some_iff.mp h
  obtain rfl : done ++ more = ts := Option.some.inj same
  have proper : q.Proper := proper_run (p := nothing) trivial hrun
  have ended : q.scriptStep ';' = some (more.map .token ++ [.semicolon], nothing) := by
    have mark : q.mark? ';' = some .semicolon := if_pos rfl
    simp only [scriptStep, step_semicolon proper hq, mark, hq, Option.bind_eq_bind, Option.bind_some]
    rfl
  rw [symbols_run hrun, symbols_cons ended, Option.map_map]
  simp [Function.comp_def]

/-- a quoted name and a point behind it -/
theorem symbols_point (name : String) (rest : List Char) :
    nothing.symbols? ((identifier name).toList ++ '.' :: rest) =
      (nothing.symbols? rest).map ([.token (.identifier name), .point] ++ ·) := by
  have named : nothing.run (identifier name).toList = some ([], .closed '"' name.toList) :=
    Token.run_chars (t := .identifier name) rfl
  have start : start '.' = none := by decide
  have alone : (closed '"' name.toList).step '.' = none := by
    have other : '.' ≠ '"' := by decide
    simp [step, other, Pending.renew, start]
  have mark : (closed '"' name.toList).mark? '.' = some .point := by simp [mark?, endsName]
  have joined : (closed '"' name.toList).scriptStep '.' = some ([.token (.identifier name), .point], nothing) := by
    simp only [scriptStep, alone, mark, Option.bind_eq_bind, Option.bind_some]
    simp [tokens?, quotedToken]
  rw [symbols_run named, symbols_cons joined, Option.map_map]
  rfl

theorem symbols_newline (rest : List Char) : nothing.symbols? ('\n' :: rest) = nothing.symbols? rest := by
  have blank : nothing.scriptStep '\n' = some ([], nothing) := by decide
  rw [symbols_cons blank]
  simp

end Pending

/-! ## Statement by statement -/

/-- a text that is read as one statement, whatever comes behind it -/
structure IsStatement (text : String) (ss : List Symbol) : Prop where
  single : .semicolon ∉ ss
  reads : ∀ rest, Pending.nothing.symbols? (text.toList ++ rest) =
    (Pending.nothing.symbols? rest).map (ss ++ .semicolon :: ·)

/-- a text that is read token by token is a statement with a semicolon behind it -/
theorem isStatement_of_finish {text : String} {body : List Char} {ts : List Token} (ended : text.toList = body ++ [';'])
    (finished : Pending.nothing.finish body = some ts) : IsStatement text (ts.map .token) := by
  refine ⟨by simp, fun rest => ?_⟩
  rw [ended, List.append_assoc]
  exact Pending.symbols_finish finished rest

/-- lexemes that can be written one behind the other are read back -/
theorem Lexeme.finish_written {ls : List Lexeme} (h : Written ls) :
    Pending.nothing.finish (ls.flatMap chars) = some (tokens ls) := by
  have scanned := scan_text h
  rwa [scan, text, String.toList_ofList] at scanned

theorem symbols_statements {texts : List String} {sss : List (List Symbol)} (h : List.Forall₂ IsStatement texts sss) :
    Pending.nothing.symbols? (['\n'].intercalate (texts.map String.toList)) =
      some ([.semicolon].intercalate (sss ++ [[]])) := by
  induction h with
  | nil => rfl
  | @cons text ss texts sss first others ih =>
    cases others with
    | nil =>
      have alone := first.reads []
      simpa [Pending.symbols?, Pending.tokens?] using alone
    | @cons next ms texts sss second others =>
      rw [List.map_cons] at ih
      rw [List.map_cons, List.map_cons, List.intercalate_cons_cons, List.append_assoc, first.reads,
        List.singleton_append, Pending.symbols_newline, ih]
      simp [List.intercalate_cons_cons]

/-- **Statements one below the other are read one by one.** -/
theorem statements_intercalate {texts : List String} {sss : List (List Symbol)}
    (h : List.Forall₂ IsStatement texts sss) : statements? ("\n".intercalate texts) = some sss := by
  have apart : ∀ ss ∈ sss ++ [[]], .semicolon ∉ ss := by
    rw [List.forall_mem_append]
    refine ⟨?_, by simp⟩
    induction h with
    | nil => simp
    | cons first _ ih => exact List.forall_mem_cons.mpr ⟨first.single, ih⟩
  have parts := List.splitOn_intercalate Symbol.semicolon apart (by simp)
  have newline : "\n".toList = ['\n'] := by decide
  rw [statements?, String.toList_intercalate, newline, symbols_statements h, Option.bind_eq_bind, Option.bind_some,
    parts]
  simp

end Tabula.Sql
