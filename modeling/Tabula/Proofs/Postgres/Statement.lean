import Tabula.Postgres.Engine.Statement
import Tabula.Proofs.Postgres.Watch
/-!
# Statements on a connection

What runs a statement on a connection sends nothing but requests for that statement there, and leaves the engine as it
was but for what is known of prepared statements.  So what these requests keep of an account, the whole operation keeps.
-/

namespace Tabula

open Postgres Engine

/-- the connection that a request is for, with its statement -/
def Postgres.Request.spoken? : Request → Option (Nat × String)
  | prepare c statement | execute c statement _ | fetch c statement _ | batch c statement => some (c, statement)
  | _ => none

namespace Dialogue.Monitor

variable {σ : Type} (m : Monitor Request Request.Answer σ) (keep : σ → Prop) (leave : Prop)

/-- whether the requests for a statement on a connection keep something of the account, and nobody loses interest in
them unless he may leave -/
def Allows (c : Nat) (statement : String) : Prop :=
  ∀ (r : Request) (w : σ) (answer : r.Answer), r.spoken? = some (c, statement) → keep w → m.admits w ⟨r, answer⟩ →
    keep (m.after w ⟨r, answer⟩) ∧ (abandoned? ⟨r, answer⟩ = some c → leave)

/-- whether an operation leaves everything but prepared statements alone and keeps something of the account -/
def Keeps {α : Type} (x : Operation α) : Prop :=
  ∀ e w, keep w → m.Holds x.run (fun result e' w' =>
    (∃ known, e' = { e with prepared := known }) ∧ keep w' ∧ (result = .error .dropped → leave)) e w

variable {m keep leave} {α β : Type} {c : Nat} {statement : String}

/-- statements without parameters and their answer -/
theorem holds_scriptOn {p : Except Halt Unit → Engine → σ → Prop} {text : String} {e : Engine} {w : σ} :
    m.Holds (scriptOn c text).run p e w ↔ ∀ answer : Awaited Unit, m.admits w ⟨.batch c text, answer⟩ →
      p answer.result e (m.after w ⟨.batch c text, answer⟩) := by
  rw [Engine.scriptOn, holds_run_lift_bind, holds_ask]
  exact forall_congr' fun answer => forall_congr' fun _ => holds_settled answer

theorem keeps_pure (a : α) : m.Keeps keep leave (pure a) :=
  fun e _ kept => ⟨⟨e.prepared, rfl⟩, kept, fun h => (nomatch h)⟩

theorem keeps_failed (error : Error) : m.Keeps keep leave (throw (.failed error) : Operation α) :=
  fun e _ kept => ⟨⟨e.prepared, rfl⟩, kept, fun h => (nomatch h)⟩

theorem keeps_bind {x : Operation α} {f : α → Operation β} (hx : m.Keeps keep leave x)
    (hf : ∀ a, m.Keeps keep leave (f a)) : m.Keeps keep leave (x >>= f) := by
  intro e w kept
  rw [holds_run_bind]
  refine (hx e w kept).mono ?_
  rintro (halt | a) e' w' ⟨⟨known, rfl⟩, kept, waited⟩
  · exact ⟨⟨known, rfl⟩, kept, fun h => waited (congrArg Except.error (Except.error.inj h))⟩
  · refine (hf a _ _ kept).mono ?_
    rintro result e'' w'' ⟨⟨known', rfl⟩, kept, waited'⟩
    exact ⟨⟨known', rfl⟩, kept, waited'⟩

theorem keeps_get {f : Engine → Operation α} (h : ∀ e, m.Keeps keep leave (f e)) : m.Keeps keep leave (get >>= f) :=
  fun e w kept => h e e w kept

/-- one of the requests for a statement -/
theorem Allows.ask {r : Request} {f : r.Answer → Operation α} (allowed : m.Allows keep leave c statement)
    (spoken : r.spoken? = some (c, statement))
    (next : ∀ answer, m.Keeps keep leave (f answer) ∨ f answer = throw .dropped ∧ abandoned? ⟨r, answer⟩ = some c) :
    m.Keeps keep leave (liftM (Engine.ask r) >>= f) := by
  intro e w kept
  rw [holds_run_lift_bind, holds_ask]
  intro answer admitted
  obtain ⟨kept, waited⟩ := allowed r w answer spoken kept admitted
  rcases next answer with keeps | ⟨dropped, left⟩
  · exact keeps e _ kept
  · rw [dropped]
    exact ⟨⟨e.prepared, rfl⟩, kept, fun _ => waited left⟩

theorem keeps_arrived (reply : Except Fault α) : m.Keeps keep leave (settled (.arrived reply)) := by
  cases reply with
  | ok a => exact keeps_pure a
  | error f => exact keeps_failed _

theorem keeps_outcome (result : Outcome α) : m.Keeps keep leave (outcome result) := by
  cases result with
  | ok a => exact keeps_pure a
  | error err => exact keeps_failed err

namespace Allows

variable (allowed : m.Allows keep leave c statement)

include allowed

theorem prepare : m.Keeps keep leave (prepare c statement) := by
  unfold Engine.prepare
  refine keeps_get fun e => ?_
  split
  · exact keeps_pure _
  · refine allowed.ask rfl fun answer => ?_
    cases answer with
    | arrived reply =>
      exact .inl (keeps_bind (keeps_arrived reply) fun p e w kept => ⟨⟨_, rfl⟩, kept, fun h => (nomatch h)⟩)
    | dropped => exact .inr ⟨rfl, rfl⟩

theorem runPrepared (p : Prepared) (parameters : List Value) :
    m.Keeps keep leave (runPrepared c statement p parameters) := by
  refine keeps_bind (keeps_arrived _) fun cells => allowed.ask rfl fun answer => ?_
  cases answer with
  | arrived reply => exact .inl (keeps_arrived reply)
  | dropped => exact .inr ⟨rfl, rfl⟩

theorem executeOn (parameters : List Value) : m.Keeps keep leave (executeOn c statement parameters) :=
  keeps_bind allowed.prepare fun p => allowed.runPrepared p parameters

theorem queryOn (parameters : List Value) : m.Keeps keep leave (queryOn c statement parameters) := by
  refine keeps_bind allowed.prepare fun p => keeps_bind (keeps_arrived _) fun cells => ?_
  refine allowed.ask rfl fun answer => ?_
  cases answer with
  | arrived reply => exact .inl (keeps_bind (keeps_arrived reply) fun rows => keeps_outcome _)
  | dropped => exact .inr ⟨rfl, rfl⟩

theorem runRows (p : Prepared) (total : Nat) (rows : List (List Value)) :
    m.Keeps keep leave (runRows c statement p total rows) := by
  induction rows generalizing total with
  | nil => exact keeps_pure total
  | cons parameters rest ih => exact keeps_bind (allowed.runPrepared p parameters) fun n => ih (total + n)

theorem executeManyOn (rows : List (List Value)) : m.Keeps keep leave (executeManyOn c statement rows) :=
  keeps_bind allowed.prepare fun p => allowed.runRows p 0 rows

theorem scriptOn : m.Keeps keep leave (scriptOn c statement) := by
  refine allowed.ask rfl fun answer => ?_
  cases answer with
  | arrived reply => exact .inl (keeps_arrived reply)
  | dropped => exact .inr ⟨rfl, rfl⟩

end Allows

end Dialogue.Monitor

/-! ## Statements that leave transactions alone -/

namespace Postgres.Setting

open Dialogue

variable (s : Setting)

/-- whether a statement neither opens nor ends a transaction -/
def Plain (statement : String) : Prop := s.commands.of statement = none

/-- whether an operation on a connection leaves everything but prepared statements alone; a patient caller loses
interest only outside transactions -/
def Quiet {α : Type} (c : Nat) (x : Operation α) : Prop :=
  ∀ e w, s.watch.Holds x.run (fun result e' w' => (∃ known, e' = { e with prepared := known }) ∧ w' = w ∧
    (result = .error .dropped → s.patient → c ∉ w.inside)) e w

variable {s} {α : Type} {c : Nat} {statement : String}

/-- a plain statement changes nothing that is watched -/
theorem Plain.allows (plain : s.Plain statement) (w : Watch) :
    s.watch.Allows (· = w) (s.patient → c ∉ w.inside) c statement := by
  rintro r w' answer spoken rfl ⟨_, waits⟩
  have none : s.commands.of statement = none := plain
  have same : w'.after s.commands ⟨r, answer⟩ = w' := by
    cases r <;> cases spoken
    · rfl
    · simp only [Watch.after, none, Watch.ran]
    · simp only [Watch.after, none, Watch.ran]
    · simp only [Watch.after, none, Watch.ran]
  refine ⟨same, fun left patient => ?_⟩
  have outside := waits patient c left
  rwa [same] at outside

/-- an operation is quiet if it keeps what is watched -/
theorem quiet_of_keeps {x : Operation α} (h : ∀ w, s.watch.Keeps (· = w) (s.patient → c ∉ w.inside) x) :
    s.Quiet c x := fun e w => h w e w rfl

end Postgres.Setting

end Tabula
