import Tabula.Postgres.Fleet
import Tabula.Proofs.Transaction
/-!
# Programs and their open scopes

`Program` is the syntax of what one task does with databases: statements on any of them, and scopes nested in any way,
each part going on with what came of the one before, also where that was dropped.  `Meets` says what part of a program
is reached after which events, and with which transactions the task is in then.

Which scopes are open is read off the events alone.  A task does not carry them all, but for each name one connection;
this is that of the innermost open scope on a database of the name, wherever in a program the task is.
-/

namespace Tabula.Transaction

/-! ## Programs -/

/-- a scope that begins says what runs inside and then ends its transaction -/
theorem says_begun {α : Type} {on : Database} {active : Active} {body : Active → Talk (Ending α)} {c : Connection}
    {inner tail : List Event} {done ending : Ending α} (outside : isActive active on.name = false)
    (ran : (body (Keyed.insert on.name c active)).Says inner done) (ended : (conclude c done).Says tail ending) :
    (inTransaction id on active body).Says (⟨.begin on, Except.ok c⟩ :: (inner ++ tail)) ending := by
  rw [inTransaction, if_neg (by simp [outside])]
  have began : (id on.begin : Talk (Outcome Connection)).Says [⟨.begin on, Except.ok c⟩] (.ok c) :=
    Dialogue.says_question.mpr rfl
  exact Dialogue.says_bind.mpr ⟨_, _, _, rfl, began, Dialogue.says_bind.mpr ⟨inner, done, tail, rfl, ran, ended⟩⟩

/-- a statement that can be issued through a database -/
inductive Statement : Type → Type where
  | execute (text : String) (parameters : List Value) : Statement Nat
  | query (text : String) (parameters : List Value) : Statement (List Row)
  | executeMany (text : String) (rows : List (List Value)) : Statement Nat
  | script (text : String) : Statement Unit

/-- issues a statement through a database, with some transactions open -/
def Statement.issue {α : Type} (on : Database) (active : Active) : Statement α → Talk (Outcome α)
  | execute text parameters => on.execute active text parameters
  | query text parameters => on.query active text parameters
  | executeMany text rows => on.executeMany active text rows
  | script text => on.script active text

/-- what a task does: statements and scopes, each part going on with what came of the one before -/
inductive Program : Type → Type 1 where
  | finish {α : Type} (ending : Ending α) : Program α
  | statement {α β : Type} (on : Database) (s : Statement β) (next : Outcome β → Program α) : Program α
  | scope {α β : Type} (on : Database) (inner : Program β) (next : Ending β → Program α) : Program α

namespace Program

/-- runs a program with some transactions open -/
def talk {α : Type} : Program α → Active → Talk (Ending α)
  | finish ending, _ => return ending
  | statement on s next, active => do
    let outcome ← s.issue on active
    (next outcome).talk active
  | scope on inner next, active => do
    let ending ← inTransaction id on active inner.talk
    (next ending).talk active

/-- what part of a program is reached after some events, and the transactions that the task is in there -/
inductive Meets : {α β : Type} → Program α → Active → List Event → Program β → Active → Prop where
  | here {α : Type} (p : Program α) (active : Active) : Meets p active [] p active
  | statement {α β γ : Type} {on : Database} {s : Statement γ} {next : Outcome γ → Program α} {outcome : Outcome γ}
      {asked events : List Event} {active inside : Active} {q : Program β}
      (issued : (s.issue on active).Says asked outcome) (later : Meets (next outcome) active events q inside) :
      Meets (.statement on s next) active (asked ++ events) q inside
  | inside {α β γ : Type} {on : Database} {inner : Program γ} {next : Ending γ → Program α} {c : Connection}
      {events : List Event} {active inside : Active} {q : Program β} (outside : isActive active on.name = false)
      (later : Meets inner (Keyed.insert on.name c active) events q inside) :
      Meets (.scope on inner next) active (⟨.begin on, Except.ok c⟩ :: events) q inside
  | beyond {α β γ : Type} {on : Database} {inner : Program γ} {next : Ending γ → Program α} {ending : Ending γ}
      {asked events : List Event} {active inside : Active} {q : Program β}
      (ran : (inTransaction id on active inner.talk).Says asked ending)
      (later : Meets (next ending) active events q inside) :
      Meets (.scope on inner next) active (asked ++ events) q inside

variable {α β : Type} {p : Program α} {q : Program β} {active inside : Active} {events : List Event}

/-- what is met is said next, and the program goes on with what comes of it -/
theorem Meets.talk (met : p.Meets active events q inside) :
    ∃ goesOn : Ending β → Talk (Ending α), ∀ back ending, (q.talk inside >>= goesOn).Says back ending →
      (p.talk active).Says (events ++ back) ending := by
  induction met with
  | here p active =>
    refine ⟨fun ending => return ending, fun back ending said => ?_⟩
    rwa [bind_pure] at said
  | statement issued later ih =>
    obtain ⟨goesOn, said_next⟩ := ih
    refine ⟨goesOn, fun back ending said => ?_⟩
    rw [List.append_assoc]
    exact Dialogue.says_bind.mpr ⟨_, _, _, rfl, issued, said_next back ending said⟩
  | @inside _ _ _ on inner next c _ active _ _ outside later ih =>
    obtain ⟨goesOn, said_next⟩ := ih
    refine ⟨fun ending => goesOn ending >>= fun done => conclude c done >>= fun ended => (next ended).talk active,
      fun back ending said => ?_⟩
    rw [← bind_assoc] at said
    obtain ⟨middle, done, rest, rfl, ran, said⟩ := Dialogue.says_bind.mp said
    obtain ⟨tail, ended, last, rfl, concluded, said⟩ := Dialogue.says_bind.mp said
    refine Dialogue.says_bind.mpr ⟨_, ended, last, ?_, says_begun outside (said_next middle done ran) concluded, said⟩
    simp only [List.cons_append, List.append_assoc]
  | beyond ran later ih =>
    obtain ⟨goesOn, said_next⟩ := ih
    refine ⟨goesOn, fun back ending said => ?_⟩
    rw [List.append_assoc]
    exact Dialogue.says_bind.mpr ⟨_, _, _, rfl, ran, said_next back ending said⟩

end Program

/-! ## Open scopes -/

/-- the connections of the scopes that are open after some events, the innermost first -/
def openScopes (held : List Connection) (events : List Event) : List Connection :=
  events.foldl (fun held e => Postgres.Fleet.heldAfter e.question e.answer held) held

/-- the connection of the innermost open scope on a database of a name -/
def innermost (name : String) (held : List Connection) : Option Connection :=
  held.find? (·.database.name = name)

variable {α β : Type} {on : Database} {active : Active} {held : List Connection} {events : List Event}
  {c k : Connection} {name : String}

theorem openScopes_append {front back : List Event} :
    openScopes held (front ++ back) = openScopes (openScopes held front) back := List.foldl_append

theorem innermost_eq_none : innermost name held = none ↔ ∀ k ∈ held, k.database.name ≠ name := by
  simp [innermost]

theorem innermost_isSome : (innermost name held).isSome ↔ ∃ k ∈ held, k.database.name = name := by
  simp [innermost]

theorem name_of_innermost (h : innermost name held = some k) : k.database.name = name := by
  simpa using List.find?_some h

/-- a statement is one call, told to run on the connection that its task carries for the name of its database, and
opens and ends no scope -/
theorem Statement.says_issue (held : List Connection) {s : Statement α} {outcome : Outcome α}
    (said : (s.issue on active).Says events outcome) :
    ∃ e : Event, events = [e] ∧ e.question.route? = some (on.pinned active) ∧
      Postgres.Fleet.heldAfter e.question e.answer held = held := by
  cases s with
  | execute text parameters =>
    exact ⟨⟨.execute on (on.pinned active) text parameters, outcome⟩, Dialogue.says_question.mp said, rfl, rfl⟩
  | query text parameters =>
    exact ⟨⟨.query on (on.pinned active) text parameters, outcome⟩, Dialogue.says_question.mp said, rfl, rfl⟩
  | executeMany text rows =>
    exact ⟨⟨.executeMany on (on.pinned active) text rows, outcome⟩, Dialogue.says_question.mp said, rfl, rfl⟩
  | script text =>
    exact ⟨⟨.script on (on.pinned active) text, outcome⟩, Dialogue.says_question.mp said, rfl, rfl⟩

theorem Statement.openScopes_issue {s : Statement α} {outcome : Outcome α}
    (said : (s.issue on active).Says events outcome) : openScopes held events = held := by
  obtain ⟨e, rfl, -, same⟩ := Statement.says_issue held said
  exact same

theorem heldAfter_release (new : c ∉ held) : (c :: held).filter (· ≠ c) = held := by
  rw [List.filter_cons_of_neg (by simp), List.filter_eq_self]
  intro k mem
  have other : k ≠ c := fun same => new (same ▸ mem)
  simpa using other

/-- a transaction is ended by giving its connection up -/
theorem openScopes_conclude {done ending : Ending α} (said : (conclude c done).Says events ending) (new : c ∉ held) :
    openScopes (c :: held) events = held := by
  match done with
  | .finished (.ok a) =>
    obtain ⟨reply, rfl, -⟩ := says_conclude_ok said
    exact heldAfter_release new
  | .finished (.error e) =>
    obtain ⟨reply, rfl, -⟩ := says_conclude_error said
    exact heldAfter_release new
  | .dropped =>
    obtain ⟨front, _, rest, rfl, asked, returned⟩ := Dialogue.says_bind.mp said
    obtain ⟨rfl, -⟩ := Dialogue.says_pure.mp returned
    obtain rfl := Dialogue.says_question.mp asked
    exact heldAfter_release new

/-! ## What a task carries with it -/

/-- whether the connections that a task carries are, name by name, those of the innermost open scopes -/
def Tallies (active : Active) (held : List Connection) : Prop :=
  ∀ name, Keyed.find? name active = innermost name held

theorem Tallies.nil : Tallies [] [] := fun _ => rfl

/-- a scope that is begun is the innermost one for its name and changes nothing for other names -/
theorem Tallies.begun (h : Tallies active held) (own : c.database = on) :
    Tallies (Keyed.insert on.name c active) (c :: held) := by
  intro name
  by_cases here : name = on.name
  · rw [here, Keyed.find?_insert_self, innermost, List.find?_cons_of_pos (by simp [own])]
  · rw [Keyed.find?_insert_of_ne here, h name, innermost, innermost,
      List.find?_cons_of_neg (by simpa [own] using Ne.symm here)]

/-- a scope is refused exactly where one on a database of its name is open -/
theorem Tallies.isActive_iff (h : Tallies active held) :
    isActive active name = true ↔ ∃ k ∈ held, k.database.name = name := by
  rw [isActive, Keyed.contains_eq_isSome, h name, innermost_isSome]

/-- a connection that a scope begins on is not that of an open scope -/
theorem Tallies.new (h : Tallies active held) (outside : isActive active on.name = false) (own : c.database = on) :
    c ∉ held := by
  intro mem
  have inside : isActive active on.name = true := h.isActive_iff.mpr ⟨c, mem, congrArg Database.name own⟩
  exact Bool.false_ne_true (outside.symm.trans inside)

/-- a scope leaves open what was open, if what runs inside does -/
theorem Tallies.scope {run : Active → Talk (Ending α)} {ending : Ending α} (h : Tallies active held)
    (said : (inTransaction id on active run).Says events ending) (honest : ∀ e ∈ events, e.Honest)
    (inner : ∀ active held events done, Tallies active held → (run active).Says events done →
      (∀ e ∈ events, Event.Honest e) → openScopes held events = held) : openScopes held events = held := by
  rcases says_inTransaction said with ⟨-, rfl, -⟩ | ⟨-, e, rfl, -⟩ | ⟨outside, c, front, tail, done, rfl, ran, ended⟩
  · rfl
  · rfl
  · have own : c.database = on := honest _ List.mem_cons_self c rfl
    calc openScopes held (⟨.begin on, .ok c⟩ :: (front ++ tail))
      _ = openScopes (openScopes (c :: held) front) tail := openScopes_append
      _ = openScopes (c :: held) tail := by rw [inner _ _ _ _ (h.begun own) ran (honest_inner honest)]
      _ = held := openScopes_conclude ended (h.new outside own)

/-- a program leaves open what was open -/
theorem Program.openScopes_talk {p : Program α} {ending : Ending α} (h : Tallies active held)
    (said : (p.talk active).Says events ending) (honest : ∀ e ∈ events, e.Honest) :
    openScopes held events = held := by
  induction p generalizing active held events with
  | finish ending =>
    obtain ⟨rfl, -⟩ := Dialogue.says_pure.mp said
    rfl
  | statement on s next ih =>
    obtain ⟨front, outcome, back, rfl, issued, later⟩ := Dialogue.says_bind.mp said
    rw [openScopes_append, Statement.openScopes_issue issued]
    exact ih outcome h later fun e mem => honest e (List.mem_append_right _ mem)
  | scope on inner next inner_ih ih =>
    obtain ⟨front, done, back, rfl, ran, later⟩ := Dialogue.says_bind.mp said
    rw [openScopes_append, h.scope ran (fun e mem => honest e (List.mem_append_left _ mem))
      fun _ _ _ _ h said honest => inner_ih h said honest]
    exact ih done h later fun e mem => honest e (List.mem_append_right _ mem)

/-- **What a task carries is what is open.**  Wherever in a program it is, the connections that it carries are, name by
name, those of the innermost open scopes. -/
theorem Tallies.meets {p : Program α} {q : Program β} {inside : Active} (h : Tallies active held)
    (met : p.Meets active events q inside) (honest : ∀ e ∈ events, e.Honest) :
    Tallies inside (openScopes held events) := by
  induction met generalizing held with
  | here p active => exact h
  | statement issued later ih =>
    rw [openScopes_append, Statement.openScopes_issue issued]
    exact ih h fun e mem => honest e (List.mem_append_right _ mem)
  | inside outside later ih =>
    exact ih (h.begun (honest _ List.mem_cons_self _ rfl)) fun e mem => honest e (List.mem_cons_of_mem _ mem)
  | beyond ran later ih =>
    rw [openScopes_append, h.scope ran (fun e mem => honest e (List.mem_append_left _ mem))
      fun _ _ _ _ h said honest => Program.openScopes_talk h said honest]
    exact ih h fun e mem => honest e (List.mem_append_right _ mem)

end Tabula.Transaction
