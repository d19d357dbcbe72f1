import Tabula.Dialogue
/-!
# What holds however a dialogue is answered

`Always p d`: whatever the questions of `d` are answered with, its result satisfies `p`.
-/

namespace Tabula.Dialogue

variable {Question : Type} {Answer : Question → Type} {α β σ : Type}

instance : LawfulMonad (Dialogue Question Answer) := by
  refine LawfulMonad.mk' _ ?_ ?_ ?_
  · intro α d
    induction d with
    | done a => rfl
    | ask q next ih => exact congrArg (ask q) (funext ih)
  · intro α β a f
    rfl
  · intro α β γ d f g
    induction d with
    | done a => rfl
    | ask q next ih => exact congrArg (ask q) (funext fun answer => ih answer)

theorem pure_inj {a b : α} : (pure a : Dialogue Question Answer α) = pure b ↔ a = b := by
  constructor
  · intro h
    injection h
  · rintro rfl
    rfl

/-- a dialogue that goes on without a question has none in either part -/
theorem bind_eq_pure {d : Dialogue Question Answer α} {f : α → Dialogue Question Answer β} {b : β} :
    d >>= f = pure b ↔ ∃ a, d = pure a ∧ f a = pure b := by
  cases d with
  | done a =>
    constructor
    · intro h
      exact ⟨a, rfl, h⟩
    · rintro ⟨_, h, went_on⟩
      cases h
      exact went_on
  | ask q next =>
    constructor
    · intro h
      cases h
    · rintro ⟨_, h, _⟩
      cases h

theorem map_eq_pure {d : Dialogue Question Answer α} {f : α → β} {b : β} :
    f <$> d = pure b ↔ ∃ a, d = pure a ∧ f a = b := by
  rw [map_eq_pure_bind, bind_eq_pure]
  exact exists_congr fun a => and_congr_right fun _ => pure_inj

/-- the result satisfies `p`, whatever the answers -/
def Always (p : α → Prop) : Dialogue Question Answer α → Prop
  | done a => p a
  | ask _ next => ∀ answer, Always p (next answer)

@[simp] theorem always_pure (p : α → Prop) (a : α) :
    Always p (pure a : Dialogue Question Answer α) ↔ p a := Iff.rfl

@[simp] theorem always_ask (p : α → Prop) (q : Question) (next : Answer q → Dialogue Question Answer α) :
    Always p (ask q next) ↔ ∀ answer, Always p (next answer) := Iff.rfl

/-- a dialogue that goes on -/
theorem always_bind (p : β → Prop) (d : Dialogue Question Answer α) (f : α → Dialogue Question Answer β) :
    Always p (d >>= f) ↔ Always (fun a => Always p (f a)) d := by
  induction d with
  | done a => exact Iff.rfl
  | ask q next ih => exact forall_congr' ih

theorem Always.of_forall {p : α → Prop} (h : ∀ a, p a) (d : Dialogue Question Answer α) : Always p d := by
  induction d with
  | done a => exact h a
  | ask q next ih => exact ih

theorem Always.mono {p q : α → Prop} (hpq : ∀ a, p a → q a) {d : Dialogue Question Answer α} (h : Always p d) :
    Always q d := by
  induction d with
  | done a => exact hpq a h
  | ask question next ih => exact fun answer => ih answer (h answer)

theorem Always.and {p q : α → Prop} {d : Dialogue Question Answer α} (hp : Always p d) (hq : Always q d) :
    Always (fun a => p a ∧ q a) d := by
  induction d with
  | done a => exact ⟨hp, hq⟩
  | ask question next ih => exact fun answer => ih answer (hp answer) (hq answer)

theorem run_pure (answer : σ → (q : Question) → Answer q × σ) (s : σ) (a : α) :
    run answer s (pure a : Dialogue Question Answer α) = (a, s) := rfl

theorem run_bind (answer : σ → (q : Question) → Answer q × σ) (s : σ) (d : Dialogue Question Answer α)
    (f : α → Dialogue Question Answer β) :
    run answer s (d >>= f) = run answer (run answer s d).2 (f (run answer s d).1) := by
  induction d generalizing s with
  | done a => rfl
  | ask q next ih => exact ih _ _

/-- **What holds for all answers holds of every run.** -/
theorem Always.run {p : α → Prop} {d : Dialogue Question Answer α} (h : Always p d)
    (answer : σ → (q : Question) → Answer q × σ) (s : σ) : p (run answer s d).1 := by
  induction d generalizing s with
  | done a => exact h
  | ask q next ih => exact ih _ (h _) _

end Tabula.Dialogue
