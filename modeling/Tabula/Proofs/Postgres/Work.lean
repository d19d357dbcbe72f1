import Tabula.Postgres.Engine.Transaction
import Tabula.Proofs.Keyed
import Tabula.Proofs.Transcript
/-!
# Watching the work of an engine

`Monitor.Holds` says what holds of the result, the engine and the account of a monitor after a part of an engine's work,
whatever the server answers as long as the monitor admits it.
-/

namespace Tabula

open Postgres hiding Task

/-- the result of waiting -/
def Postgres.Awaited.result {α : Type} : Awaited α → Except Halt α
  | .arrived (.ok a) => .ok a
  | .arrived (.error f) => .error (.failed f.toError)
  | .dropped => .error .dropped

namespace Dialogue.Monitor

variable {σ : Type} (m : Monitor Request Request.Answer σ)

/-- what holds after a part of an engine's work -/
def Holds {α : Type} (x : Postgres.Task α) (p : α → Engine → σ → Prop) (e : Engine) (w : σ) : Prop :=
  m.Ensures (fun r w => p r.1 r.2 w) w (x.run e)

variable {m} {α β : Type} {p q : α → Engine → σ → Prop} {e : Engine} {w : σ}

theorem Holds.mono {x : Postgres.Task α} (h : m.Holds x p e w) (weaker : ∀ a e w, p a e w → q a e w) :
    m.Holds x q e w :=
  Ensures.mono h fun r w => weaker r.1 r.2 w

/-- what holds is so after every transcript that the monitor admits -/
theorem Holds.afterwards {x : Postgres.Task α} (h : m.Holds x p e w) {t : List (Exchange Request Request.Answer)}
    {a : α} {e' : Engine} (said : (x.run e).Says t (a, e')) (admitted : m.Admits w t) :
    p a e' (t.foldl m.after w) :=
  Ensures.of_says h said admitted

@[simp] theorem holds_pure (a : α) : m.Holds (pure a) p e w ↔ p a e w := Iff.rfl

theorem holds_bind {p : β → Engine → σ → Prop} {x : Postgres.Task α} {f : α → Postgres.Task β} :
    m.Holds (x >>= f) p e w ↔ m.Holds x (fun a => m.Holds (f a) p) e w := ensures_bind

@[simp] theorem holds_get {p : Engine → Engine → σ → Prop} : m.Holds get p e w ↔ p e e w := Iff.rfl

@[simp] theorem holds_set {p : Unit → Engine → σ → Prop} (e' : Engine) :
    m.Holds (set e') p e w ↔ p () e' w := Iff.rfl

@[simp] theorem holds_modify {p : Unit → Engine → σ → Prop} (f : Engine → Engine) :
    m.Holds (modify f) p e w ↔ p () (f e) w := Iff.rfl

theorem holds_ask {r : Request} {p : r.Answer → Engine → σ → Prop} :
    m.Holds (Engine.ask r) p e w ↔ ∀ answer, m.admits w ⟨r, answer⟩ → p answer e (m.after w ⟨r, answer⟩) := Iff.rfl

/-! ## Operations -/

variable {p : Except Halt α → Engine → σ → Prop}

@[simp] theorem holds_run_pure (a : α) : m.Holds (pure a : Operation α).run p e w ↔ p (.ok a) e w := Iff.rfl

@[simp] theorem holds_run_throw (halt : Halt) :
    m.Holds (throw halt : Operation α).run p e w ↔ p (.error halt) e w := Iff.rfl

/-- an operation goes on if its first part has a result -/
theorem holds_run_bind {p : Except Halt β → Engine → σ → Prop} {x : Operation α} {f : α → Operation β} :
    m.Holds (x >>= f).run p e w ↔ m.Holds x.run (fun
      | .ok a => m.Holds (f a).run p
      | .error halt => p (.error halt)) e w := by
  rw [ExceptT.run_bind, holds_bind]
  constructor
  · intro h
    refine h.mono fun result e w h => ?_
    cases result <;> exact h
  · intro h
    refine h.mono fun result e w h => ?_
    cases result <;> exact h

@[simp] theorem holds_run_lift {x : Postgres.Task α} :
    m.Holds (liftM x : Operation α).run p e w ↔ m.Holds x (fun a => p (.ok a)) e w := ensures_bind

theorem holds_run_lift_bind {p : Except Halt β → Engine → σ → Prop} {x : Postgres.Task α} {f : α → Operation β} :
    m.Holds (liftM x >>= f).run p e w ↔ m.Holds x (fun a => m.Holds (f a).run p) e w := by
  rw [holds_run_bind, holds_run_lift]

theorem holds_run_get_bind {f : Engine → Operation α} :
    m.Holds (get >>= f).run p e w ↔ m.Holds (f e).run p e w := Iff.rfl

@[simp] theorem holds_attempt {p : Except Halt (Except Halt α) → Engine → σ → Prop} {x : Operation α} :
    m.Holds (Engine.attempt x).run p e w ↔ m.Holds x.run (fun result => p (.ok result)) e w := holds_bind

@[simp] theorem holds_ending (result : Except Halt α) : m.Holds (Engine.ending result).run p e w ↔ p result e w := by
  cases result <;> exact Iff.rfl

@[simp] theorem holds_settled (answer : Awaited α) :
    m.Holds (Engine.settled answer).run p e w ↔ p answer.result e w := by
  match answer with
  | .arrived (.ok a) => exact Iff.rfl
  | .arrived (.error f) => exact Iff.rfl
  | .dropped => exact Iff.rfl

/-- only the result is left out -/
theorem Holds.unit {P : Engine → σ → Prop} {x : Operation α} (h : m.Holds x.run (fun _ => P) e w) :
    m.Holds (do let _ ← x : Operation Unit).run (fun _ => P) e w := by
  rw [holds_run_bind]
  refine h.mono ?_
  rintro (halt | a) e w h
  · exact h
  · exact h

/-- an operation on a transaction connection is refused, or runs on the connection behind it -/
theorem holds_onHandle {n : Nat} {op : Nat → Operation α} (refused : ∀ error, p (.error (.failed error)) e w)
    (runs : e.closed = false → ∀ c finished, (n, ⟨some c, finished⟩) ∈ e.handles → m.Holds (op c).run p e w) :
    m.Holds (Engine.onHandle n op).run p e w := by
  rw [Engine.onHandle, holds_run_get_bind, holds_run_bind]
  unfold Engine.usable
  split
  · exact refused _
  · next isOpen =>
    split
    · next c found =>
      obtain ⟨⟨connection, finished⟩, there, rfl⟩ := Option.bind_eq_some_iff.mp found
      exact runs (by simpa using isOpen) c finished (Keyed.mem_of_lookup there)
    · exact refused _

end Dialogue.Monitor

end Tabula
