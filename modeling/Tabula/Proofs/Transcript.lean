import Tabula.Proofs.Dialogue
/-!
# Transcripts

What is said in a dialogue from its first question to its result: `Says d t a` for a transcript `t`, the questions
with their answers in order, after which `d` ends with `a`.  Every run has its transcript.
-/

namespace Tabula.Dialogue

variable {Question : Type} {Answer : Question → Type} {α β σ : Type}

/-- a question with its answer -/
structure Exchange (Question : Type) (Answer : Question → Type) where
  question : Question
  answer : Answer question

/-- a transcript of a dialogue and its result -/
inductive Says : Dialogue Question Answer α → List (Exchange Question Answer) → α → Prop where
  | done (a : α) : Says (done a) [] a
  | ask {q : Question} {next : Answer q → Dialogue Question Answer α} {answer : Answer q}
      {rest : List (Exchange Question Answer)} {a : α} (h : Says (next answer) rest a) :
      Says (ask q next) (⟨q, answer⟩ :: rest) a

variable {t : List (Exchange Question Answer)}

theorem says_pure {a b : α} : Says (pure a : Dialogue Question Answer α) t b ↔ t = [] ∧ b = a := by
  constructor
  · intro h
    cases h
    exact ⟨rfl, rfl⟩
  · rintro ⟨rfl, rfl⟩
    exact .done b

theorem says_ask {q : Question} {next : Answer q → Dialogue Question Answer α} {a : α} :
    Says (ask q next) t a ↔ ∃ answer rest, t = ⟨q, answer⟩ :: rest ∧ Says (next answer) rest a := by
  constructor
  · intro h
    cases h with
    | ask h => exact ⟨_, _, rfl, h⟩
  · rintro ⟨answer, rest, rfl, h⟩
    exact .ask h

/-- a single question -/
theorem says_question {q : Question} {a : Answer q} :
    Says (ask q .done : Dialogue Question Answer (Answer q)) t a ↔ t = [⟨q, a⟩] := by
  rw [says_ask]
  constructor
  · rintro ⟨answer, rest, rfl, h⟩
    cases h
    rfl
  · rintro rfl
    exact ⟨a, [], rfl, .done a⟩

/-- a dialogue that goes on says what its parts say, one after the other -/
theorem says_bind {d : Dialogue Question Answer α} {f : α → Dialogue Question Answer β} {b : β} :
    Says (d >>= f) t b ↔ ∃ front a back, t = front ++ back ∧ Says d front a ∧ Says (f a) back b := by
  induction d generalizing t with
  | done a =>
    constructor
    · intro h
      exact ⟨[], a, t, rfl, .done a, h⟩
    · rintro ⟨front, _, back, rfl, hd, hf⟩
      cases hd
      exact hf
  | ask q next ih =>
    constructor
    · intro h
      obtain ⟨answer, rest, rfl, said⟩ := says_ask.mp h
      obtain ⟨front, a, back, rfl, hd, hf⟩ := (ih answer).mp said
      exact ⟨⟨q, answer⟩ :: front, a, back, rfl, .ask hd, hf⟩
    · rintro ⟨front, a, back, rfl, hd, hf⟩
      obtain ⟨answer, rest, rfl, h⟩ := says_ask.mp hd
      exact .ask ((ih answer).mpr ⟨rest, a, back, rfl, h, hf⟩)

/-- a dialogue whose result is made into another -/
theorem says_bind_pure {d : Dialogue Question Answer α} {f : α → β} {b : β} :
    Says (do return f (← d)) t b ↔ ∃ a, Says d t a ∧ b = f a := by
  rw [says_bind]
  constructor
  · rintro ⟨front, a, back, rfl, said, rest⟩
    obtain ⟨rfl, rfl⟩ := says_pure.mp rest
    exact ⟨a, (List.append_nil front).symm ▸ said, rfl⟩
  · rintro ⟨a, said, rfl⟩
    exact ⟨t, a, [], (List.append_nil t).symm, said, says_pure.mpr ⟨rfl, rfl⟩⟩

/-- what an answerer makes a dialogue say -/
def transcript (answer : σ → (q : Question) → Answer q × σ) :
    σ → Dialogue Question Answer α → List (Exchange Question Answer)
  | _, done _ => []
  | s, ask q next => ⟨q, (answer s q).1⟩ :: transcript answer (answer s q).2 (next (answer s q).1)

/-- **Every run says its transcript.** -/
theorem says_run (answer : σ → (q : Question) → Answer q × σ) (s : σ) (d : Dialogue Question Answer α) :
    Says d (transcript answer s d) (run answer s d).1 := by
  induction d generalizing s with
  | done a => exact .done a
  | ask q next ih => exact .ask (ih _ _)

/-- what holds of all answers of an answerer holds in its transcripts -/
theorem forall_mem_transcript {p : Exchange Question Answer → Prop}
    {answer : σ → (q : Question) → Answer q × σ} (h : ∀ s q, p ⟨q, (answer s q).1⟩) (s : σ)
    (d : Dialogue Question Answer α) : ∀ e ∈ transcript answer s d, p e := by
  induction d generalizing s with
  | done a => exact fun e he => absurd he List.not_mem_nil
  | ask q next ih =>
    intro e he
    rcases List.mem_cons.mp he with rfl | he
    · exact h s q
    · exact ih _ _ e he

/-- **What holds for all answers holds after every transcript.** -/
theorem Always.of_says {p : α → Prop} {d : Dialogue Question Answer α} (h : Always p d) {a : α} (said : d.Says t a) :
    p a := by
  induction said with
  | done a => exact h
  | ask _ ih => exact ih (h _)

/-! ## Monitors -/

/-- keeps an account of a dialogue, and says which answers the account admits -/
structure Monitor (Question : Type) (Answer : Question → Type) (σ : Type) where
  after : σ → Exchange Question Answer → σ
  admits : σ → Exchange Question Answer → Prop

namespace Monitor

variable (m : Monitor Question Answer σ)

/-- whether every answer in a transcript is admitted where it is given -/
def Admits : σ → List (Exchange Question Answer) → Prop
  | _, [] => True
  | s, x :: rest => m.admits s x ∧ Admits (m.after s x) rest

/-- whatever the answers that are admitted, the result and the account in the end satisfy `p` -/
def Ensures (p : α → σ → Prop) : σ → Dialogue Question Answer α → Prop
  | s, done a => p a s
  | s, ask q next => ∀ answer, m.admits s ⟨q, answer⟩ → Ensures p (m.after s ⟨q, answer⟩) (next answer)

variable {m} {p p' : α → σ → Prop} {s : σ} {d : Dialogue Question Answer α}

/-- a monitor that keeps less of an account ensures the same of what it keeps -/
theorem ensures_map {τ : Type} {m' : Monitor Question Answer τ} {f : σ → τ} {p : α → τ → Prop}
    (after : ∀ s x, f (m.after s x) = m'.after (f s) x) (admits : ∀ s x, m.admits s x ↔ m'.admits (f s) x) :
    m'.Ensures p (f s) d ↔ m.Ensures (fun a s => p a (f s)) s d := by
  induction d generalizing s with
  | done a => exact Iff.rfl
  | ask q next ih =>
    refine forall_congr' fun answer => ?_
    rw [← admits, ← after]
    exact imp_congr_right fun _ => ih answer

theorem admits_append {t t' : List (Exchange Question Answer)} :
    m.Admits s (t ++ t') ↔ m.Admits s t ∧ m.Admits (t.foldl m.after s) t' := by
  induction t generalizing s with
  | nil => exact ⟨fun h => ⟨trivial, h⟩, And.right⟩
  | cons x rest ih =>
    rw [List.cons_append, Admits, Admits, ih, and_assoc]
    rfl

theorem ensures_bind {p : β → σ → Prop} {f : α → Dialogue Question Answer β} :
    m.Ensures p s (d >>= f) ↔ m.Ensures (fun a s => m.Ensures p s (f a)) s d := by
  induction d generalizing s with
  | done a => exact Iff.rfl
  | ask q next ih => exact forall_congr' fun answer => forall_congr' fun _ => ih answer

theorem Ensures.mono (h : m.Ensures p s d) (weaker : ∀ a s, p a s → p' a s) : m.Ensures p' s d := by
  induction d generalizing s with
  | done a => exact weaker a s h
  | ask q next ih => exact fun answer admitted => ih answer (h answer admitted)

/-- **What a monitor ensures holds after every transcript that it admits.** -/
theorem Ensures.of_says (h : m.Ensures p s d) {a : α} (said : d.Says t a) (admitted : m.Admits s t) :
    p a (t.foldl m.after s) := by
  induction said generalizing s with
  | done a => exact h
  | ask _ ih => exact ih (h _ admitted.1) admitted.2

end Monitor

end Tabula.Dialogue
