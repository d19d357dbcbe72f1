import Tabula.Proofs.Postgres.Scope
import Tabula.Proofs.Transaction.OpenScopes
/-!
# Where a statement runs

A statement comes to one connection of the server: the one behind the transaction connection that it names, whichever
engine holds it, or, if it names none, one that its own engine takes from its pool.

Which it names goes by the name of its database: that of the innermost open scope on a database of this name.  Two
engines of one name are not told apart.
-/

namespace Tabula

open Postgres Engine Dialogue

namespace Postgres

variable {α β : Type} {c y n : Nat} {e e' : Engine} {t : List Reply} {l : List Heard}

/-! ## Work on one connection -/

/-- whether a part of an engine's work comes to no connection but one -/
def Engine.Minds (c : Nat) (x : Task α) : Prop :=
  ∀ y, c ≠ y → ∀ e l, (listen y fun _ => True).Holds x (fun _ _ l' => l' = l) e l

theorem Engine.Minds.silent {x : Task α} {a : α} (h : Minds c x) (said : (x.run e).Says t (a, e')) (other : c ≠ y) :
    hear y t = [] := heard_of_holds (h y other e []) said fun _ _ _ _ => trivial

theorem Engine.Minds.op_bind {x : Operation α} {f : α → Operation β} (hx : Minds c x.run)
    (hf : ∀ a, Minds c (f a).run) : Minds c (x >>= f).run := by
  intro y other e l
  refine Monitor.holds_run_bind.mpr ((hx y other e l).mono ?_)
  rintro (halt | a) e₁ l₁ rfl
  · rfl
  · exact hf a y other e₁ l₁

theorem Engine.Minds.attempt {x : Operation α} (h : Minds c x.run) : Minds c (attempt x).run :=
  fun y other e l => Monitor.holds_attempt.mpr (h y other e l)

/-- what keeps an account of every other connection -/
theorem minds_of_keeps {x : Operation α}
    (keeps : ∀ y, c ≠ y → ∀ l, (listen y fun _ => True).Keeps (· = l) True x) : Minds c x.run :=
  fun y other e l => (keeps y other l e l rfl).mono fun _ _ _ ⟨_, same, _⟩ => same

theorem minds_executeOn (statement : String) (parameters : List Value) :
    Minds c (executeOn c statement parameters).run :=
  minds_of_keeps fun _ other _ => (listen_allows_of_ne other).executeOn parameters

theorem minds_queryOn (statement : String) (parameters : List Value) :
    Minds c (queryOn c statement parameters).run :=
  minds_of_keeps fun _ other _ => (listen_allows_of_ne other).queryOn parameters

theorem minds_executeManyOn (statement : String) (rows : List (List Value)) :
    Minds c (executeManyOn c statement rows).run :=
  minds_of_keeps fun _ other _ => (listen_allows_of_ne other).executeManyOn rows

theorem minds_scriptOn (text : String) : Minds c (scriptOn c text).run :=
  minds_of_keeps fun _ other _ => (listen_allows_of_ne other).scriptOn

theorem minds_shut : Minds c (shut c) := by
  intro y other e l
  rw [listen_shut, if_neg other, List.append_nil]

theorem minds_giveBack : Minds c (giveBack c) := by
  intro y other e l
  rw [giveBack, Monitor.holds_bind, Monitor.holds_get]
  split
  · split
    · exact minds_shut y other e l
    · rfl
  · rfl

theorem minds_concludeBatch (result : Except Halt Nat) : Minds c (concludeBatch c result).run := by
  rcases result with (error | _) | total
  · refine (minds_scriptOn "ROLLBACK").attempt.op_bind ?_
    rintro ((error | _) | _)
    · intro y other e l
      exact Monitor.holds_run_lift_bind.mpr (minds_shut y other e l)
    · exact fun _ _ _ _ => rfl
    · exact fun _ _ _ _ => rfl
  · exact fun _ _ _ _ => rfl
  · exact (minds_scriptOn "COMMIT").op_bind fun _ _ _ _ _ => rfl

/-- a batch in a transaction of its own -/
theorem minds_batch (statement : String) (rows : List (List Value)) : Minds c (do
    scriptOn c "BEGIN"
    concludeBatch c (← attempt (executeManyOn c statement rows)) : Operation Nat).run :=
  (minds_scriptOn "BEGIN").op_bind fun _ =>
    (minds_executeManyOn statement rows).attempt.op_bind fun result => minds_concludeBatch result

/-! ## Connections of a pool -/

/-- whether a connection is in the pool of an engine, or is opened by it in the course of some requests -/
def Engine.Offers (e : Engine) (t : List Reply) (c : Nat) : Prop :=
  c ∈ e.idle ∨ ⟨.connect e.config e.config.database, Awaited.arrived (.ok c)⟩ ∈ t

/-- keeps all requests with their answers -/
def recorder : Monitor Request Request.Answer (List Reply) where
  after t x := t ++ [x]
  admits _ _ := True

theorem foldl_recorder {t front : List Reply} : t.foldl recorder.after front = front ++ t := by
  induction t generalizing front with
  | nil => exact (List.append_nil front).symm
  | cons x rest ih => exact ih.trans (List.append_assoc ..)

theorem admits_recorder {t front : List Reply} : recorder.Admits front t := by
  induction t generalizing front with
  | nil => trivial
  | cons x rest ih => exact ⟨trivial, ih⟩

theorem recorder_longer (x : Task α) : recorder.Holds x (fun _ _ t' => ∃ more, t' = t ++ more) e t := by
  unfold Monitor.Holds
  generalize x.run e = d
  induction d generalizing t with
  | done => exact ⟨[], (List.append_nil t).symm⟩
  | ask q next ih =>
    intro answer _
    refine (ih answer).mono ?_
    rintro _ _ ⟨more, rfl⟩
    exact ⟨⟨q, answer⟩ :: more, List.append_assoc ..⟩

theorem recorder_takeIdle {cs : List Nat} : recorder.Holds (takeIdle cs)
    (fun taken e' _ => e'.config = e.config ∧ ∀ c, taken = some c → c ∈ cs) e t := by
  induction cs generalizing e t with
  | nil => exact ⟨rfl, by rintro _ ⟨⟩⟩
  | cons x rest ih =>
    have later (e₁ : Engine) (t₁ : List Reply) (same : e₁.config = e.config) : recorder.Holds (takeIdle rest)
        (fun taken e' _ => e'.config = e.config ∧ ∀ c, taken = some c → c ∈ x :: rest) e₁ t₁ :=
      ih.mono fun _ _ _ ⟨same', idle⟩ => ⟨same'.trans same, fun c found => List.mem_cons_of_mem x (idle c found)⟩
    rw [takeIdle]
    refine Monitor.holds_bind.mpr fun (alive : Bool) _ => ?_
    cases alive with
    | true =>
      refine ⟨rfl, fun c taken => ?_⟩
      cases taken
      exact List.mem_cons_self
    | false => exact later _ _ rfl

/-- what an operation takes from the pool is idle there, or is opened to the database of the engine -/
theorem recorder_checkOut : recorder.Holds checkOut.run
    (fun taken _ t' => ∀ c, taken = .ok c → e.Offers t' c) e t := by
  rw [checkOut, Monitor.holds_run_get_bind]
  simp only
  split
  · rintro _ ⟨⟩
  split
  · rintro _ ⟨⟩
  rw [Monitor.holds_run_lift_bind, takeConnection, Monitor.holds_bind, Monitor.holds_get, Monitor.holds_bind]
  refine recorder_takeIdle.mono ?_
  rintro (_ | x) e₁ t₁ ⟨same, idle⟩
  · simp only
    rw [Monitor.holds_bind, Monitor.holds_get]
    split
    · rw [Monitor.holds_bind, Monitor.holds_ask]
      rintro ((f | x) | _) _
      · rintro _ ⟨⟩
      · rintro _ ⟨⟩
        exact .inr (same ▸ List.mem_append_right _ List.mem_cons_self)
      · rintro _ ⟨⟩
    · rw [Monitor.holds_bind, Monitor.holds_ask]
      rintro (_ | _) _
      · rintro _ ⟨⟩
      · rintro _ ⟨⟩
  · rintro _ ⟨⟩
    exact .inl (idle x rfl)

/-- what runs on a connection of the pool comes to one that the engine offers: nothing is heard while it is taken, and
then nothing on any other, to the end -/
theorem offers_of_heard {op : Nat → Operation α} {result : Except Halt α} (minds : ∀ c, Minds c (op c).run)
    (said : ((onConnection op).run.run e).Says t (result, e')) (heard : hear y t ≠ []) : e.Offers t y := by
  rw [onConnection, ExceptT.run_bind, StateT.run_bind] at said
  obtain ⟨front, ⟨taken, e₁⟩, back, rfl, out, said⟩ := Dialogue.says_bind.mp said
  have aside : (listen y fun _ => True).Holds checkOut.run (fun _ _ l' => l' = []) e [] :=
    listen_checkOut.mono fun _ _ _ h => h.1.2
  have silent : hear y front = [] := heard_of_holds aside out fun _ _ _ _ => trivial
  cases taken with
  | error halt =>
    obtain ⟨rfl, -⟩ := Dialogue.says_pure.mp said
    rw [hear_append, silent] at heard
    exact absurd rfl heard
  | ok c =>
    have offered : e.Offers front c := by
      have offers := recorder_checkOut (t := []) |>.afterwards out admits_recorder
      rw [foldl_recorder, List.nil_append] at offers
      exact offers c rfl
    by_cases here : c = y
    · subst here
      exact offered.imp_right (List.mem_append_left back)
    · have rest : Minds c (do
          let result ← attempt (op c)
          giveBack c
          ending result : Operation α).run := by
        refine (minds c).attempt.op_bind fun result y other e l => ?_
        refine Monitor.holds_run_lift_bind.mpr ((minds_giveBack y other e l).mono fun _ _ _ same => ?_)
        exact (Monitor.holds_ending result).mpr same
      rw [hear_append, silent, rest.silent said here] at heard
      exact absurd rfl heard

/-- what runs on a transaction connection comes to the connection behind it -/
theorem holds_of_heard {op : Nat → Operation α} {result : Except Halt α} (minds : ∀ c, Minds c (op c).run)
    (said : ((Engine.onHandle n op).run.run e).Says t (result, e')) (heard : hear y t ≠ []) :
    ∃ finished, (n, ⟨some y, finished⟩) ∈ e.handles := by
  -- if the connection is not behind it, then what is behind it is another, and the operation is silent here
  by_contra absent
  have silent : (listen y fun _ => True).Holds (Engine.onHandle n op).run (fun _ _ l' => l' = []) e [] := by
    refine Monitor.holds_onHandle (fun _ => rfl) fun _ x finished there => minds x y ?_ e []
    rintro rfl
    exact absent ⟨finished, there⟩
  exact heard (heard_of_holds silent said fun _ _ _ _ => trivial)

/-! ## What succeeds was heard -/

/-- whether anything is heard on a connection -/
def Spoken (t : List Reply) : Prop := ∃ c, hear c t ≠ []

/-- whether an operation that succeeds was heard -/
def Engine.Speaks (x : Operation α) : Prop :=
  ∀ e t, recorder.Holds x.run (fun result _ t' => ∀ a, result = .ok a → Spoken t') e t

theorem Spoken.append (h : Spoken t) (t' : List Reply) : Spoken (t ++ t') := by
  obtain ⟨c, heard⟩ := h
  exact ⟨c, fun nothing => heard (List.append_eq_nil_iff.mp (hear_append.symm.trans nothing)).1⟩

theorem spoken_of_request {r : Request} {statement : String} (answer : r.Answer)
    (spoken : r.spoken? = some (c, statement)) : Spoken (t ++ [⟨r, answer⟩]) := by
  obtain ⟨h, -, heard⟩ := heard_of_spoken (c := c) answer spoken
  rw [if_pos rfl] at heard
  refine ⟨c, fun nothing => ?_⟩
  rw [hear_append, hear_cons, heard] at nothing
  simp at nothing

/-- what was heard is not unheard by what comes after it -/
theorem Spoken.holds (h : Spoken t) (x : Task α) : recorder.Holds x (fun _ _ t' => Spoken t') e t :=
  (recorder_longer x).mono fun _ _ _ ⟨more, longer⟩ => longer ▸ h.append more

theorem Engine.Speaks.after {x : Operation α} {f : α → Operation β} (h : ∀ a, Speaks (f a)) : Speaks (x >>= f) := by
  intro e t
  refine Monitor.holds_run_bind.mpr ((recorder_longer x.run).mono ?_)
  rintro (halt | a) e t _
  · rintro _ ⟨⟩
  · exact h a e t

theorem Engine.Speaks.before {x : Operation α} (h : Speaks x) (f : α → Operation β) : Speaks (x >>= f) := by
  intro e t
  refine Monitor.holds_run_bind.mpr ((h e t).mono ?_)
  rintro (halt | a) e t spoken
  · rintro _ ⟨⟩
  · exact ((spoken a rfl).holds (f a).run).mono fun _ _ _ h _ _ => h

theorem speaks_ask {r : Request} {statement : String} (spoken : r.spoken? = some (c, statement))
    (f : r.Answer → Operation α) : Speaks (liftM (Engine.ask r) >>= f) := by
  intro e t
  rw [Monitor.holds_run_lift_bind, Monitor.holds_ask]
  exact fun answer _ => ((spoken_of_request answer spoken).holds (f answer).run).mono fun _ _ _ h _ _ => h

theorem speaks_scriptOn (text : String) : Speaks (scriptOn c text) := speaks_ask rfl _

theorem speaks_runPrepared (statement : String) (p : Prepared) (parameters : List Value) :
    Speaks (runPrepared c statement p parameters) := .after fun _ => speaks_ask rfl _

theorem speaks_executeOn (statement : String) (parameters : List Value) :
    Speaks (executeOn c statement parameters) := .after fun p => speaks_runPrepared statement p parameters

theorem speaks_queryOn (statement : String) (parameters : List Value) : Speaks (queryOn c statement parameters) :=
  .after fun _ => .after fun _ => speaks_ask rfl _

theorem speaks_executeManyOn (statement : String) (parameters : List Value) (rows : List (List Value)) :
    Speaks (executeManyOn c statement (parameters :: rows)) :=
  .after fun p => (speaks_runPrepared statement p parameters).before _

theorem Engine.Speaks.onConnection {op : Nat → Operation α} (h : ∀ c, Speaks (op c)) : Speaks (onConnection op) := by
  refine .after fun c e t => ?_
  rw [Monitor.holds_run_bind, Monitor.holds_attempt]
  refine (h c e t).mono fun result e₁ t₁ spoken => ?_
  simp only
  rw [Monitor.holds_run_lift_bind]
  cases result with
  | error halt =>
    refine (recorder_longer (giveBack c)).mono fun _ e t _ => ?_
    rintro _ ⟨⟩
  | ok a => exact ((spoken a rfl).holds (giveBack c)).mono fun _ _ _ h _ _ => h

end Postgres

/-! ## Where statements are heard -/

namespace Transaction.Statement

variable {α : Type}

/-- runs a statement on a connection -/
def runOn (c : Nat) : Statement α → Operation α
  | execute text parameters => executeOn c text parameters
  | query text parameters => queryOn c text parameters
  | executeMany text rows => executeManyOn c text rows
  | script text => scriptOn c text

/-- runs a statement on a connection of the pool -/
def runPooled : Statement α → Operation α
  | execute text parameters => Engine.execute text parameters
  | query text parameters => Engine.query text parameters
  | executeMany text rows => Engine.executeMany text rows
  | script text => Engine.script text

/-- whether there is nothing to run -/
def IsIdle : Statement α → Prop
  | executeMany _ rows => rows = []
  | _ => False

variable {s : Statement α} {c y : Nat} {e e' : Engine} {t : List Reply} {result : Except Halt α}

theorem minds_runOn (s : Statement α) (c : Nat) : Minds c (s.runOn c).run := by
  cases s with
  | execute text parameters => exact minds_executeOn text parameters
  | query text parameters => exact minds_queryOn text parameters
  | executeMany text rows => exact minds_executeManyOn text rows
  | script text => exact minds_scriptOn text

theorem offers_of_runPooled (said : (s.runPooled.run.run e).Says t (result, e')) (heard : hear y t ≠ []) :
    e.Offers t y := by
  cases s with
  | execute text parameters => exact offers_of_heard (fun _ => minds_executeOn text parameters) said heard
  | query text parameters => exact offers_of_heard (fun _ => minds_queryOn text parameters) said heard
  | executeMany text rows => exact offers_of_heard (fun _ => minds_batch text rows) said heard
  | script text => exact offers_of_heard (fun _ => minds_scriptOn text) said heard

theorem speaks_runOn (busy : ¬ s.IsIdle) (c : Nat) : Speaks (s.runOn c) := by
  cases s with
  | execute text parameters => exact speaks_executeOn text parameters
  | query text parameters => exact speaks_queryOn text parameters
  | executeMany text rows =>
    cases rows with
    | nil => exact absurd rfl busy
    | cons parameters rest => exact speaks_executeManyOn text parameters rest
  | script text => exact speaks_scriptOn text

theorem speaks_runPooled (s : Statement α) : Speaks s.runPooled := by
  cases s with
  | execute text parameters => exact .onConnection fun _ => speaks_executeOn text parameters
  | query text parameters => exact .onConnection fun _ => speaks_queryOn text parameters
  | executeMany text rows => exact .onConnection fun _ => (speaks_scriptOn "BEGIN").before _
  | script text => exact .onConnection fun _ => speaks_scriptOn text

end Transaction.Statement

namespace Postgres.Fleet

open Transaction

variable {α : Type} {f f' : Fleet} {t : List Reply} {x : Nat}

/-- what is asked alone is answered as a call is -/
theorem says_converse_question {call : Call} {reply : Option call.Answer}
    (said : ((converse [] (Dialogue.question call)).run f).Says t (reply, f')) :
    ((answer call).run f).Says t (reply, f') := by
  rw [Dialogue.question, converse, StateT.run_bind] at said
  obtain ⟨front, ⟨answered, f₁⟩, back, rfl, ran, said⟩ := Dialogue.says_bind.mp said
  cases answered with
  | some answer =>
    obtain ⟨rfl, same⟩ := Dialogue.says_pure.mp said
    cases same
    rwa [List.append_nil]
  | none =>
    obtain ⟨rfl, same⟩ := Dialogue.says_pure.mp said
    cases same
    rwa [List.append_nil]

/-- a statement runs on the connection that its task carries for the name of its database, else on the pool -/
theorem says_routed {on : Database} {active : Active} {s : Statement α} {reply : Option (Outcome α)}
    (said : ((converse [] (s.issue on active)).run f).Says t (reply, f')) :
    ((routed on (on.pinned active) s.runPooled s.runOn).run f).Says t (reply, f') := by
  cases s with
  | execute text parameters => exact says_converse_question said
  | query text parameters => exact says_converse_question said
  | executeMany text rows => exact says_converse_question said
  | script text => exact says_converse_question said

/-- an operation that is heard runs on the engine of its database -/
theorem says_operate_heard {db : Database} {op : Operation α} {result : Except Halt α}
    (said : ((operate db op).run f).Says t (result, f')) (heard : hear x t ≠ []) :
    ∃ e e', f.engine? db = some e ∧ (op.run.run e).Says t (result, e') := by
  rcases says_operate said with ⟨rfl, -⟩ | ⟨e, e', here, ran, -⟩
  · exact absurd rfl heard
  · exact ⟨e, e', here, ran⟩

theorem spoken_of_operate {db : Database} {op : Operation α} {a : α} (speaks : Speaks op)
    (said : ((operate db op).run f).Says t (.ok a, f')) : Spoken t := by
  obtain ⟨e, e', -, ran, -⟩ := says_operate_ok said
  have spoken := (speaks e []).afterwards ran admits_recorder a rfl
  rwa [foldl_recorder, List.nil_append] at spoken

theorem seen_eq_ok {result : Except Halt α} {a : α} (h : some (.ok a) = seen result) : result = .ok a := by
  match result with
  | .ok b =>
    cases h
    rfl
  | .error (.failed error) => cases h
  | .error .dropped => cases h

/-- a call that engines answered, in whatever state they were -/
def Answered (event : Event) : Prop :=
  ∃ f t f', ((Fleet.answer event.question).run f).Says t (some event.answer, f')

/-- engines give connections of the database asked -/
theorem Answered.honest {event : Event} (h : Answered event) : event.Honest := by
  obtain ⟨call, reply⟩ := event
  cases call with
  | begin db =>
    intro c begun
    obtain ⟨f, t, f', said⟩ := h
    obtain ⟨result, -, seen⟩ := says_return said
    change Outcome Connection at reply
    subst begun
    match result with
    | .ok n =>
      cases seen
      rfl
    | .error (.failed error) => cases seen
    | .error .dropped => cases seen
  | _ => trivial

/-- **Statements are routed by the name of their database.**  Wherever a task is in a program, and whatever its engines
and servers did before, a statement that it issues comes to the connection of the innermost open scope on a database of
the same name, if there is one, and else to a connection of its own engine's pool; if it succeeds and was not idle then
it came to one.  A scope is refused exactly if one on a database of the same name is open. -/
theorem routed_by_name {p : Program α} {before : List Event} (answered : ∀ event ∈ before, Answered event) :
    (∀ {β γ : Type} (on : Database) (s : Statement γ) (next : Outcome γ → Program β) (active : Active),
      p.Meets [] before (.statement on s next) active →
      ∀ f t reply f', ((converse [] (s.issue on active)).run f).Says t (reply, f') →
        (∀ x, hear x t ≠ [] →
          (∃ k e finished, innermost on.name (openScopes [] before) = some k ∧ k.database.name = on.name ∧
            f.engine? k.database = some e ∧ (k.number, ⟨some x, finished⟩) ∈ e.handles) ∨
          ((∀ k ∈ openScopes [] before, k.database.name ≠ on.name) ∧
            ∃ e, f.engine? on = some e ∧ e.Offers t x)) ∧
        (∀ a, reply = some (.ok a) → ¬ s.IsIdle → ∃ x, hear x t ≠ [])) ∧
    (∀ {β γ : Type} (on : Database) (inner : Program γ) (next : Ending γ → Program β) (active : Active),
      p.Meets [] before (.scope on inner next) active →
      ((inTransaction id on active inner.talk).Says [] (.finished (.error (nested on.name))) ↔
        ∃ k ∈ openScopes [] before, k.database.name = on.name)) := by
  have honest : ∀ event ∈ before, event.Honest := fun event mem => (answered event mem).honest
  -- what the task carries under the name is known wherever it is, and both parts look it up there
  refine ⟨fun on s next active met f t reply f' said => ?_, fun on inner next active met => ?_⟩
  · have carried : on.pinned active = innermost on.name (openScopes [] before) := Tallies.nil.meets met honest on.name
    have ran := says_routed said
    rw [carried] at ran
    unfold routed at ran
    split at ran
    · next k found =>
      obtain ⟨result, ran, seen⟩ := says_return ran
      refine ⟨fun x heard => .inl ?_, fun a ok busy => ?_⟩
      · obtain ⟨e, e', here, ran⟩ := says_operate_heard ran heard
        obtain ⟨finished, there⟩ := holds_of_heard s.minds_runOn ran heard
        exact ⟨k, e, finished, found, name_of_innermost found, here, there⟩
      · obtain rfl := seen_eq_ok (ok.symm.trans seen)
        exact spoken_of_operate (.after fun c => Statement.speaks_runOn busy c) ran
    · next found =>
      obtain ⟨result, ran, seen⟩ := says_return ran
      refine ⟨fun x heard => .inr ⟨innermost_eq_none.mp found, ?_⟩, fun a ok _ => ?_⟩
      · obtain ⟨e, e', here, ran⟩ := says_operate_heard ran heard
        exact ⟨e, here, Statement.offers_of_runPooled ran heard⟩
      · obtain rfl := seen_eq_ok (ok.symm.trans seen)
        exact spoken_of_operate s.speaks_runPooled ran
  · rw [← (Tallies.nil.meets met honest).isActive_iff]
    constructor
    · intro said
      rcases says_inTransaction said with ⟨inside, -⟩ | ⟨-, _, asked, -⟩ | ⟨-, _, _, _, _, asked, -⟩
      · exact inside
      · cases asked
      · cases asked
    · intro inside
      rw [inTransaction, if_pos inside]
      exact Dialogue.says_pure.mpr ⟨rfl, rfl⟩

/-- a server that opens connections under ever new numbers and does all that it is asked -/
def obliging : Nat → (q : Request) → q.Answer × Nat
  | n, .connect .. => (.arrived (.ok n), n + 1)
  | n, q => ((refusing "" () q).1, n)

theorem answered_of_run {call : Call} {reply : call.Answer} (f : Fleet) (n : Nat)
    (ran : (Dialogue.run obliging n ((answer call).run f)).1.1 = some reply) : Answered ⟨call, reply⟩ := by
  have said := Dialogue.says_run obliging n ((answer call).run f)
  generalize (Dialogue.run obliging n ((answer call).run f)).1 = done at ran said
  obtain ⟨_, f'⟩ := done
  cases ran
  exact ⟨f, _, f', said⟩

/-- two engines, the first of which holds its connection 0 for a transaction -/
def twoEngines : Fleet where
  engines := [
    (0, { opened with lent := [0], handles := [(0, ⟨some 0, false⟩)], nextHandle := 1 }),
    (1, { config := { Reachable.localhost with database := "archive" }, isOpen := true })]

/-- a scope on one database in which rows of another are deleted -/
def deletingWithin (outer inner : Database) : Program Nat :=
  .scope outer (.statement inner (.execute "DELETE" []) fun outcome => .finish (.finished outcome)) .finish

/-- inside a scope on the orders, rows of the audit are deleted on a connection of the audit, and a scope on the audit
is not refused -/
theorem routed_by_name_elsewhere :
    let orders : Database := ⟨"orders", 0⟩
    let audit : Database := ⟨"audit", 1⟩
    let k : Connection := ⟨orders, 0⟩
    let before : List Event := [⟨.begin orders, Except.ok k⟩]
    let deletion := (converse [] ((Statement.execute "DELETE" []).issue audit [("orders", k)])).run twoEngines
    let t := Dialogue.transcript obliging 1 deletion
    (∀ event ∈ before, Answered event) ∧
    (deletingWithin orders audit).Meets [] before
      (.statement audit (.execute "DELETE" []) fun outcome => .finish (.finished outcome)) [("orders", k)] ∧
    hear 0 t = [] ∧ hear 1 t ≠ [] ∧
    ((∃ k e finished, innermost "audit" (openScopes [] before) = some k ∧ k.database.name = "audit" ∧
        twoEngines.engine? k.database = some e ∧ (k.number, ⟨some 1, finished⟩) ∈ e.handles) ∨
      ((∀ k ∈ openScopes [] before, k.database.name ≠ "audit") ∧
        ∃ e, twoEngines.engine? audit = some e ∧ e.Offers t 1)) ∧
    ¬ (inTransaction id audit [("orders", k)] (deletingWithin orders audit).talk).Says []
      (.finished (.error (nested "audit"))) := by
  intro orders audit k before deletion t
  have answered : ∀ event ∈ before, Answered event := by
    intro event mem
    obtain rfl := List.mem_singleton.mp mem
    exact answered_of_run ⟨[(0, opened)]⟩ 0 rfl
  have met : (deletingWithin orders audit).Meets [] before
      (.statement audit (.execute "DELETE" []) fun outcome => .finish (.finished outcome)) [("orders", k)] :=
    .inside rfl (.here _ _)
  have heard : hear 1 t ≠ [] := by decide +kernel
  have entered : (.scope orders (.scope audit (deletingWithin orders audit) .finish) .finish : Program Nat).Meets []
      before (.scope audit (deletingWithin orders audit) .finish) [("orders", k)] := .inside rfl (.here _ _)
  have refused := (routed_by_name answered).2 audit _ _ _ entered
  exact ⟨answered, met, by decide +kernel, heard,
    ((routed_by_name answered).1 audit _ _ _ met _ t _ _ (Dialogue.says_run obliging 1 deletion)).1 1 heard,
    fun said => absurd (refused.mp said) (by decide)⟩

/-- **Engines of one name are not told apart.**  Inside a scope on the first of them, a statement issued through the
second comes to the connection of the scope, which the second has nothing to do with, and a scope on the second is
refused although none on it is open. -/
theorem joins_scope_of_namesake :
    let first : Database := ⟨"default", 0⟩
    let second : Database := ⟨"default", 1⟩
    let k : Connection := ⟨first, 0⟩
    let before : List Event := [⟨.begin first, Except.ok k⟩]
    let deletion := (converse [] ((Statement.execute "DELETE" []).issue second [("default", k)])).run twoEngines
    let t := Dialogue.transcript obliging 1 deletion
    (∀ event ∈ before, Answered event) ∧
    (deletingWithin first second).Meets [] before
      (.statement second (.execute "DELETE" []) fun outcome => .finish (.finished outcome)) [("default", k)] ∧
    (∃ e reply f', deletion.Says t (reply, f') ∧ hear 0 t ≠ [] ∧
      twoEngines.engine? second = some e ∧ ¬ e.Uses 0 ∧ ¬ e.Offers t 0) ∧
    (.scope first (deletingWithin second first) .finish : Program Nat).Meets [] before (deletingWithin second first)
      [("default", k)] ∧
    ((deletingWithin second first).talk [("default", k)]).Says [] (.finished (.error (nested "default"))) ∧
    ∀ c ∈ openScopes [] before, c.database ≠ second := by
  intro first second k before deletion t
  refine ⟨fun event mem => ?_, .inside rfl (.here _ _), ?_, .inside rfl (.here _ _), .done _, by decide⟩
  · obtain rfl := List.mem_singleton.mp mem
    exact answered_of_run ⟨[(0, opened)]⟩ 0 rfl
  · have opensNone : given t = [] := by decide +kernel
    refine ⟨_, _, _, Dialogue.says_run obliging 1 deletion, by decide +kernel, rfl, ?_, ?_⟩
    · rintro (idle | ⟨n, finished, there⟩)
      · cases idle
      · cases there
    · rintro (idle | connected)
      · cases idle
      · have gives : 0 ∈ given t := List.mem_filterMap.mpr ⟨_, connected, rfl⟩
        rw [opensNone] at gives
        cases gives

end Postgres.Fleet

end Tabula
