/-!
# Dialogues

A computation that asks questions and goes on with their answers, as the tree of everything it may ask.  A
dialogue is run by whoever answers: `Dialogue.run` keeps the answerer's state.  What holds on every branch of the
tree holds for every answerer.
-/

namespace Tabula

/-- a computation that asks questions -/
inductive Dialogue (Question : Type) (Answer : Question → Type) (α : Type) where
  | done (result : α)
  | ask (question : Question) (next : Answer question → Dialogue Question Answer α)

namespace Dialogue

variable {Question : Type} {Answer : Question → Type} {α β σ : Type}

/-- goes on with a second computation -/
def bind : Dialogue Question Answer α → (α → Dialogue Question Answer β) → Dialogue Question Answer β
  | done a, f => f a
  | ask q next, f => ask q fun answer => (next answer).bind f

instance : Monad (Dialogue Question Answer) where
  pure := done
  bind := bind

/-- asks one question -/
def question (q : Question) : Dialogue Question Answer (Answer q) := ask q done

/-- runs a dialogue with an answerer that has a state -/
def run (answer : σ → (q : Question) → Answer q × σ) : σ → Dialogue Question Answer α → α × σ
  | s, done a => (a, s)
  | s, ask q next =>
    let (a, s) := answer s q
    run answer s (next a)

theorem bind_done (f : α → Dialogue Question Answer β) (a : α) : (done a).bind f = f a := rfl

theorem bind_ask (q : Question) (next : Answer q → Dialogue Question Answer α)
    (f : α → Dialogue Question Answer β) : (ask q next).bind f = ask q fun a => (next a).bind f := rfl

end Dialogue

end Tabula
