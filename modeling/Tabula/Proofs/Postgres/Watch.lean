import Tabula.Proofs.Postgres.Work
/-!
# Watching a server

`Watch` is what can be said of the transactions of a server from the requests to it and their answers: which numbers it
has given to connections, and which connections may be inside a transaction.  A request is carried out even if its
caller loses interest, so that a `BEGIN` without an answer counts as a transaction and a `COMMIT` ends one whatever its
answer, while a `ROLLBACK` has to succeed.
-/

namespace Tabula.Postgres

/-- what a statement does to the transaction of its connection -/
inductive Command where
  | opens | commits | rollsBack
  deriving DecidableEq

/-- which statements open and end transactions; the three that engines send are known -/
structure Commands where
  of : String → Option Command
  begin_ : of "BEGIN" = some .opens
  commit : of "COMMIT" = some .commits
  rollback : of "ROLLBACK" = some .rollsBack

/-- a request with its answer -/
abbrev Reply := Dialogue.Exchange Request Request.Answer

/-- the number under which a connection is opened -/
def given? : Reply → Option Nat
  | ⟨.connect _ _, answer⟩ =>
    match (answer : Awaited Nat) with
    | .arrived (.ok c) => some c
    | _ => none
  | _ => none

/-- the numbers under which connections are opened in the course of some requests -/
def given (t : List Reply) : List Nat := t.filterMap given?

/-- connections of a server, by their numbers -/
structure Watch where
  known : List Nat := []
  /-- those that may be inside a transaction -/
  inside : List Nat := []

namespace Watch

/-- a connection that is outside transactions now, or closed -/
def left (w : Watch) (c : Nat) : Watch := { w with inside := w.inside.filter (· ≠ c) }

/-- a connection that is inside a transaction now -/
def entered (w : Watch) (c : Nat) : Watch := { w with inside := c :: w.inside }

/-- a connection after a statement -/
def ran {α : Type} (w : Watch) (c : Nat) : Option Command → Awaited α → Watch
  | some .opens, .arrived (.error _) => w
  | some .opens, _ => w.entered c
  | some .commits, _ => w.left c
  | some .rollsBack, .arrived (.ok _) => w.left c
  | some .rollsBack, _ => w
  | none, _ => w

/-- the server after an answer -/
def after (commands : Commands) (w : Watch) : Reply → Watch
  | ⟨.connect _ _, answer⟩ =>
    match (answer : Awaited Nat) with
    | .arrived (.ok c) => { w with known := c :: w.known }
    | _ => w
  | ⟨.execute c statement _, answer⟩ => w.ran (α := Nat) c (commands.of statement) answer
  | ⟨.fetch c statement _, answer⟩ => w.ran (α := List (List Cell)) c (commands.of statement) answer
  | ⟨.batch c text, answer⟩ => w.ran (α := Unit) c (commands.of text) answer
  | ⟨.shut c, _⟩ => w.left c
  | _ => w

theorem ran_known {α : Type} (w : Watch) (c : Nat) (command : Option Command) (answer : Awaited α) :
    (w.ran c command answer).known = w.known := by
  unfold ran
  split <;> rfl

/-- the numbers known after an answer -/
theorem mem_known_after {commands : Commands} {w : Watch} {c : Nat} {x : Reply} :
    c ∈ (w.after commands x).known ↔ given? x = some c ∨ c ∈ w.known := by
  obtain ⟨r, answer⟩ := x
  cases r with
  | connect config database =>
    change Awaited Nat at answer
    rcases answer with (f | n) | _
    · simp [after, given?]
    · simp [after, given?, eq_comm]
    · simp [after, given?]
  | execute | fetch | batch => exact (iff_of_eq (congrArg (c ∈ ·) (ran_known ..))).trans (by simp [given?])
  | _ => simp [after, given?, left]

theorem known_foldl {commands : Commands} {w : Watch} {c : Nat} (known : c ∈ w.known) (t : List Reply) :
    c ∈ (t.foldl (after commands) w).known := by
  induction t generalizing w with
  | nil => exact known
  | cons x rest ih => exact ih (mem_known_after.mpr (.inr known))

/-- connections get new numbers -/
def Fresh (w : Watch) : Reply → Prop
  | ⟨.connect _ _, answer⟩ => ∀ c, answer = Awaited.arrived (.ok c) → c ∉ w.known
  | _ => True

theorem fresh_iff {w : Watch} {x : Reply} : w.Fresh x ↔ ∀ c, given? x = some c → c ∉ w.known := by
  obtain ⟨r, answer⟩ := x
  cases r with
  | connect config database =>
    change Awaited Nat at answer
    constructor
    · intro fresh c gives
      rcases answer with (f | n) | _ <;> cases gives
      exact fresh c rfl
    · rintro new c rfl
      exact new c rfl
  | _ => simp [Fresh, given?]

end Watch

/-- whether the caller lost interest -/
def Awaited.isDropped {α : Type} : Awaited α → Bool
  | .arrived _ => false
  | .dropped => true

/-- the connection on which the caller lost interest in a request -/
def abandoned? : Reply → Option Nat
  | ⟨.prepare c _, answer⟩ => if Awaited.isDropped (α := Prepared) answer then some c else none
  | ⟨.execute c _ _, answer⟩ => if Awaited.isDropped (α := Nat) answer then some c else none
  | ⟨.fetch c _ _, answer⟩ => if Awaited.isDropped (α := List (List Cell)) answer then some c else none
  | ⟨.batch c _, answer⟩ => if Awaited.isDropped (α := Unit) answer then some c else none
  | _ => none

/-- what engines may meet -/
structure Setting where
  commands : Commands
  /-- whether no caller loses interest while the connection may be inside a transaction afterwards -/
  patient : Prop

namespace Setting

variable (s : Setting)

/-- watches a server -/
def watch : Dialogue.Monitor Request Request.Answer Watch where
  after := Watch.after s.commands
  admits w x := w.Fresh x ∧ (s.patient → ∀ c, abandoned? x = some c → c ∉ (w.after s.commands x).inside)

/-- fresh numbers are all that is asked of callers who may be impatient -/
theorem admits_of_given {commands : Commands} {w : Watch} {t : List Reply} (once : (given t).Nodup)
    (new : ∀ c ∈ given t, c ∉ w.known) : (watch ⟨commands, False⟩).Admits w t := by
  induction t generalizing w with
  | nil => trivial
  | cons x rest ih =>
    refine ⟨⟨Watch.fresh_iff.mpr fun c gives => new c ?_, False.elim⟩, ih ?_ fun c mem known => ?_⟩
    · exact List.mem_filterMap.mpr ⟨x, List.mem_cons_self, gives⟩
    · exact ((List.sublist_cons_self x rest).filterMap given?).nodup once
    · rcases Watch.mem_known_after.mp known with gives | known
      · rw [given, List.filterMap_cons_some gives] at once
        exact (List.nodup_cons.mp once).1 mem
      · exact new c (((List.sublist_cons_self x rest).filterMap given?).subset mem) known

/-- connections that are opened in an admitted part are new -/
theorem new_of_admits {s : Setting} {w : Watch} {t : List Reply} (admitted : s.watch.Admits w t) :
    ∀ x ∈ t, ∀ c, given? x = some c → c ∉ w.known := by
  induction t generalizing w with
  | nil => exact fun _ mem => absurd mem List.not_mem_nil
  | cons y rest ih =>
    intro x mem c gives
    rcases List.mem_cons.mp mem with rfl | mem
    · exact Watch.fresh_iff.mp admitted.1.1 c gives
    · exact fun known => ih admitted.2 x mem c gives (Watch.mem_known_after.mpr (.inr known))

theorem holds_ask {s : Setting} {r : Request} {p : r.Answer → Engine → Watch → Prop} {e : Engine} {w : Watch} :
    s.watch.Holds (Engine.ask r) p e w ↔
      ∀ answer, s.watch.admits w ⟨r, answer⟩ → p answer e (w.after s.commands ⟨r, answer⟩) := Iff.rfl

end Setting

end Tabula.Postgres
