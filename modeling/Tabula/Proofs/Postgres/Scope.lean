import Tabula.Postgres.Fleet
import Tabula.Proofs.Dialogue
import Tabula.Proofs.Postgres.CleanPool
import Tabula.Proofs.Postgres.Reserved
import Tabula.Proofs.Transaction
/-!
# What a transaction scope leaves on the server

A scope that succeeds has sent `COMMIT` on its connection, and nothing but the statements of its body came to that
connection since `BEGIN`.  Whether they took effect is another matter: where the server refused one of them, `COMMIT`
takes the others back and succeeds all the same, and so does the scope if its body makes nothing of the error.
-/

namespace Tabula

open Postgres hiding Task

/-- the engine of a connection and its number there -/
def Connection.key (k : Connection) : Nat × Nat := (k.database.id, k.number)

/-- whether a call leaves the transaction on a connection alone but for plain statements -/
def Call.Spares (commands : Commands) (k : Connection) : Call → Prop
  | .execute _ pinned statement _ | .query _ pinned statement _ | .executeMany _ pinned statement _
  | .script _ pinned statement => ∀ x, pinned = some x → x.key = k.key → commands.of statement = none
  | .commit x | .rollback x | .release x | .discard x => x.key ≠ k.key
  | .close _ | .begin _ => True

/-- whether a `BEGIN` is answered with another connection -/
def Event.GivesOther (k : Connection) : Event → Prop
  | ⟨.begin _, answer⟩ => ∀ x, answer = Except.ok x → x.key ≠ k.key
  | _ => True

/-- whether a conversation leaves the transaction on a connection alone but for plain statements, as long as the
connection is given to nobody else -/
def Talk.Spares {α : Type} (commands : Commands) (k : Connection) : Talk α → Prop
  | .done _ => True
  | .ask call next =>
    call.Spares commands k ∧ ∀ answer, Event.GivesOther k ⟨call, answer⟩ → Spares commands k (next answer)

variable {α β : Type} {commands : Commands} {k : Connection}

theorem Talk.Spares.bind {d : Talk α} {f : α → Talk β} (hd : Talk.Spares commands k d)
    (hf : ∀ a, Talk.Spares commands k (f a)) : Talk.Spares commands k (d >>= f) := by
  induction d with
  | done a => exact hf a
  | ask call next ih => exact ⟨hd.1, fun answer other => ih answer (hd.2 answer other)⟩

namespace Transaction

/-- whether all statements of a body are plain -/
def Body.Plain (commands : Commands) : {α : Type} → Body α → Prop
  | _, finish _ => True
  | _, execute _ statement _ next => commands.of statement = none ∧ ∀ outcome, (next outcome).Plain commands
  | _, query _ statement _ next => commands.of statement = none ∧ ∀ outcome, (next outcome).Plain commands
  | _, scope _ inner next => inner.Plain commands ∧ ∀ outcome, (next outcome).Plain commands

/-- a scope ends its own transaction only -/
theorem inTransaction_spares {db : Database} {active : Active} {run : Active → Talk (Ending α)}
    (inner : ∀ active, Talk.Spares commands k (run active)) :
    Talk.Spares commands k (inTransaction id db active run) := by
  unfold inTransaction
  split
  · exact trivial
  · refine ⟨trivial, fun answer other => ?_⟩
    match answer with
    | .error e => exact trivial
    | .ok c =>
      have another : c.key ≠ k.key := other c rfl
      refine (inner _).bind fun ending => ?_
      match ending with
      | .finished (.ok a) => exact ⟨another, fun _ _ => ⟨another, fun _ _ => trivial⟩⟩
      | .finished (.error e) => exact ⟨another, fun _ _ => ⟨another, fun _ _ => trivial⟩⟩
      | .dropped => exact ⟨another, fun _ _ => trivial⟩

/-- plain statements and scopes leave the transactions around them alone -/
theorem Body.spares {body : Body α} (plain : body.Plain commands) (active : Active) :
    Talk.Spares commands k (body.talk active) := by
  induction body generalizing active with
  | finish outcome => exact trivial
  | execute on statement parameters next ih =>
    exact ⟨fun _ _ _ => plain.1, fun answer _ => ih answer (plain.2 answer) active⟩
  | query on statement parameters next ih =>
    exact ⟨fun _ _ _ => plain.1, fun answer _ => ih answer (plain.2 answer) active⟩
  | scope on inner next inner_spares ih =>
    rw [Body.talk]
    refine (inTransaction_spares (inner_spares plain.1)).bind fun ending => ?_
    cases ending with
    | finished outcome => exact ih outcome (plain.2 outcome) active
    | dropped => exact trivial

end Transaction

namespace Postgres.Fleet

variable {f f' : Fleet} {db : Database} {t : List Reply} {c : Nat} {key : Nat × Nat} {new : Nat → Prop}

/-! ## Operations on the engines of a fleet -/

theorem lookup_withEngine {e : Engine} {id : Nat} : (f.withEngine db e).engines.lookup id =
    if id = db.id then (f.engines.lookup id).map fun _ => e else f.engines.lookup id := by
  rw [withEngine]
  induction f.engines with
  | nil => simp
  | cons p rest ih =>
    obtain ⟨i, e₀⟩ := p
    by_cases same : id = i
    · subst same
      by_cases here : id = db.id
      · simp [here]
      · simp [here]
    · have other : (id == i) = false := beq_eq_false_iff_ne.mpr same
      by_cases here : i = db.id
      · subst here
        simpa [List.lookup_cons, other, same] using ih
      · simpa [List.lookup_cons, other, here] using ih

/-- an operation runs on the engine of its database, if there is one -/
theorem says_operate {op : Operation α} {result : Except Halt α}
    (said : ((operate db op).run f).Says t (result, f')) :
    (t = [] ∧ f' = f ∧ ∃ error, result = .error (.failed error)) ∨
      ∃ e e', f.engine? db = some e ∧ (op.run.run e).Says t (result, e') ∧ f' = f.withEngine db e' := by
  rw [operate, StateT.run_bind, StateT.run_get, pure_bind] at said
  simp only at said
  split at said
  · obtain ⟨rfl, same⟩ := Dialogue.says_pure.mp said
    cases same
    exact .inl ⟨rfl, rfl, _, rfl⟩
  · next e found =>
    rw [StateT.run_bind, StateT.run_lift, bind_assoc] at said
    obtain ⟨front, ⟨r, e'⟩, back, rfl, ran, said⟩ := Dialogue.says_bind.mp said
    obtain ⟨rfl, same⟩ := Dialogue.says_pure.mp said
    cases same
    rw [List.append_nil]
    exact .inr ⟨e, e', found, ran, rfl⟩

/-- a computation whose result is looked at -/
theorem says_return {x : Crew α} {g : α → β} {b : β} (said : ((do return g (← x)).run f).Says t (b, f')) :
    ∃ a, (x.run f).Says t (a, f') ∧ b = g a := by
  rw [StateT.run_bind] at said
  obtain ⟨front, ⟨a, f₁⟩, back, rfl, ran, said⟩ := Dialogue.says_bind.mp said
  obtain ⟨rfl, same⟩ := Dialogue.says_pure.mp said
  cases same
  rw [List.append_nil]
  exact ⟨a, ran, rfl⟩

/-! ## What comes to the connection of a transaction -/

/-- the transaction of a connection, as an engine of the fleet sees it -/
def own (key : Nat × Nat) (id : Nat) : Option Nat := if id = key.1 then some key.2 else none

theorem own_of_key {x : Connection} (mine : x.key = k.key) : own k.key x.database.id = some x.number := by
  rw [← mine]
  exact if_pos rfl

theorem own_of_key_ne {x : Connection} (other : x.key ≠ k.key) : own k.key x.database.id ≠ some x.number := by
  rw [own]
  split
  · next there => exact fun same => other (Prod.ext there (Option.some.inj same).symm)
  · exact fun same => nomatch same

/-- whether a connection is reserved for a transaction in all engines -/
def Reserves (c : Nat) (key : Nat × Nat) (f : Fleet) : Prop :=
  ∀ id e, f.engines.lookup id = some e → Apart c (own key id) e

/-- whether an engine, if it is there, is closed -/
def Closed (id : Nat) (f : Fleet) : Prop := ∀ e, f.engines.lookup id = some e → e.closed = true

/-- what an operation does to its engine, and what is heard of it on a connection that is reserved for a transaction -/
structure Passed (commands : Commands) (c : Nat) (own : Option Nat) (e e' : Engine) (heard : List Heard) : Prop where
  apart : Apart c own e'
  closed : e.closed = true → e'.closed = true
  /-- closing the engine of the transaction closes the connection -/
  plain : own = none ∨ e'.closed = false → ∀ h ∈ heard, h.Plain commands

theorem passed_of_aside {own : Option Nat} {e e' : Engine} {heard : List Heard} (h : Aside c own e [] e' heard) :
    Passed commands c own e e' heard where
  apart := h.apart
  closed closed := h.closed.trans closed
  plain _ _ mem := absurd (h.silent ▸ mem) List.not_mem_nil

/-- what a part of a conversation does to a fleet, and what is heard of it on a connection that is reserved -/
structure Course (commands : Commands) (c : Nat) (key : Nat × Nat) (f : Fleet) (heard : List Heard) (f' : Fleet) :
    Prop where
  reserves : f'.Reserves c key
  closed : f.Closed key.1 → f'.Closed key.1
  plain : ¬ f'.Closed key.1 → ∀ h ∈ heard, h.Plain commands

theorem Reserves.stay (h : f.Reserves c key) : Course commands c key f [] f :=
  ⟨h, id, fun _ _ mem => absurd mem List.not_mem_nil⟩

theorem Course.trans {f'' : Fleet} {heard heard' : List Heard} (h : Course commands c key f heard f')
    (h' : Course commands c key f' heard' f'') : Course commands c key f (heard ++ heard') f'' where
  reserves := h'.reserves
  closed closed := h'.closed (h.closed closed)
  plain isOpen x mem := by
    rcases List.mem_append.mp mem with mem | mem
    · exact h.plain (fun closed => isOpen (h'.closed closed)) x mem
    · exact h'.plain isOpen x mem

/-- an operation that passes its engine passes the fleet -/
theorem Reserves.operate {op : Operation α} {result : Except Halt α} {Q : Except Halt α → Prop}
    (h : f.Reserves c key) (admitted : ∀ y ∈ t, ∀ n, given? y = some n → new n)
    (said : ((operate db op).run f).Says t (result, f'))
    (passes : ∀ e, Apart c (own key db.id) e → (listen c new).Holds op.run
      (fun result e' heard => Passed commands c (own key db.id) e e' heard ∧ Q result) e [])
    (fails : ∀ error, Q (.error (.failed error))) : Course commands c key f (hear c t) f' ∧ Q result := by
  rcases says_operate said with ⟨rfl, rfl, error, rfl⟩ | ⟨e, e', here, ran, rfl⟩
  · exact ⟨h.stay, fails error⟩
  · obtain ⟨passed, q⟩ := heard_of_holds (passes e (h db.id e here)) ran admitted
    have same : (f.withEngine db e').engines.lookup db.id = some e' := by
      rw [lookup_withEngine, if_pos rfl, show f.engines.lookup db.id = some e from here]
      rfl
    refine ⟨⟨fun id e₁ found => ?_, fun closed e₁ found => ?_, fun isOpen => passed.plain ?_⟩, q⟩
    · by_cases at_db : id = db.id
      · subst at_db
        cases same.symm.trans found
        exact passed.apart
      · rw [lookup_withEngine, if_neg at_db] at found
        exact h id e₁ found
    · by_cases at_db : key.1 = db.id
      · rw [at_db] at closed found
        cases same.symm.trans found
        exact passed.closed (closed e here)
      · rw [lookup_withEngine, if_neg at_db] at found
        exact closed e₁ found
    · by_cases at_db : db.id = key.1
      · refine .inr (Bool.eq_false_iff.mpr fun closed => isOpen fun e₁ found => ?_)
        rw [← at_db] at found
        cases same.symm.trans found
        exact closed
      · exact .inl (if_neg at_db)

/-- an operation that stays aside -/
theorem Reserves.aside {op : Operation α} {result : Except Halt α} (h : f.Reserves c key)
    (admitted : ∀ y ∈ t, ∀ n, given? y = some n → new n) (said : ((Fleet.operate db op).run f).Says t (result, f'))
    (aside : ∀ e, Apart c (own key db.id) e →
      (listen c new).Holds op.run (fun _ => Aside c (own key db.id) e []) e []) :
    Course commands c key f (hear c t) f' :=
  (h.operate (Q := fun _ => True) admitted said
    (fun e apart => (aside e apart).mono fun _ _ _ h => ⟨passed_of_aside h, trivial⟩) fun _ => trivial).1

/-- a statement, on the pool or on the connection of a transaction -/
theorem Reserves.routed {pinned : Option Connection} {pooled : Operation α} {held : Nat → Operation α}
    {statement : String} {seen : Option (Outcome α)} (h : f.Reserves c k.key)
    (admitted : ∀ y ∈ t, ∀ n, given? y = some n → new n)
    (spares : ∀ x, pinned = some x → x.key = k.key → commands.of statement = none)
    (pool : ∀ e, Apart c (own k.key db.id) e →
      (listen c new).Holds pooled.run (fun _ => Aside c (own k.key db.id) e []) e [])
    (keeps : ∀ (keep : List Heard → Prop) x, (listen c new).Allows keep True x statement →
      (listen c new).Keeps keep True (held x))
    (said : ((routed db pinned pooled held).run f).Says t (seen, f')) : Course commands c k.key f (hear c t) f' := by
  unfold Fleet.routed at said
  split at said
  · next x =>
    obtain ⟨result, ran, _⟩ := says_return said
    by_cases mine : x.key = k.key
    · refine (h.operate (Q := fun _ => True) admitted ran (fun e apart => ?_) fun _ => trivial).1
      rw [own_of_key mine] at apart ⊢
      refine (apart.onOwn (keeps _ c (listen_allows fun _ of => of.plain (spares x rfl mine)))).mono ?_
      rintro _ e' _ ⟨apart', closed, more, rfl, plainly⟩
      exact ⟨⟨apart', fun was => closed.trans was, fun _ => plainly⟩, trivial⟩
    · exact h.aside admitted ran fun e apart =>
        apart.onHandle (own_of_key_ne mine) fun y other => apart.unheard (keeps _ y (listen_allows_of_ne other))
  · obtain ⟨result, ran, _⟩ := says_return said
    exact h.aside admitted ran pool

/-- a call that spares the transaction -/
theorem Reserves.answer {call : Call} {reply : call.Answer} (h : f.Reserves c k.key) (fresh : ¬ new c)
    (admitted : ∀ y ∈ t, ∀ n, given? y = some n → new n) (spares : call.Spares commands k)
    (said : ((answer call).run f).Says t (some reply, f')) :
    Course commands c k.key f (hear c t) f' ∧ Event.GivesOther k ⟨call, reply⟩ := by
  cases call with
  | execute on pinned statement parameters =>
    have keeps (keep : List Heard → Prop) (x : Nat) (allowed : (listen c new).Allows keep True x statement) :
        (listen c new).Keeps keep True (Engine.executeOn x statement parameters) := allowed.executeOn parameters
    exact ⟨h.routed admitted spares (fun e apart => apart.pooled fresh keeps) keeps said, trivial⟩
  | query on pinned statement parameters =>
    have keeps (keep : List Heard → Prop) (x : Nat) (allowed : (listen c new).Allows keep True x statement) :
        (listen c new).Keeps keep True (Engine.queryOn x statement parameters) := allowed.queryOn parameters
    exact ⟨h.routed admitted spares (fun e apart => apart.pooled fresh keeps) keeps said, trivial⟩
  | executeMany on pinned statement rows =>
    have keeps (keep : List Heard → Prop) (x : Nat) (allowed : (listen c new).Allows keep True x statement) :
        (listen c new).Keeps keep True (Engine.executeManyOn x statement rows) := allowed.executeManyOn rows
    exact ⟨h.routed admitted spares (fun e apart => apart.executeMany fresh statement rows) keeps said, trivial⟩
  | script on pinned text =>
    have keeps (keep : List Heard → Prop) (x : Nat) (allowed : (listen c new).Allows keep True x text) :
        (listen c new).Keeps keep True (Engine.scriptOn x text) := allowed.scriptOn
    exact ⟨h.routed admitted spares (fun e apart => apart.pooled fresh keeps) keeps said, trivial⟩
  | close on =>
    obtain ⟨result, ran, _⟩ := says_return said
    refine ⟨(h.operate (Q := fun _ => True) admitted ran (fun e apart => ?_) fun _ => trivial).1, trivial⟩
    refine Dialogue.Monitor.holds_run_lift.mpr (apart.close.mono ?_)
    rintro _ e' heard ⟨apart, closed, silent⟩
    refine ⟨⟨apart, fun _ => closed, fun either x mem => ?_⟩, trivial⟩
    rcases either with none | isOpen
    · exact absurd (silent none ▸ mem) List.not_mem_nil
    · exact nomatch closed.symm.trans isOpen
  | begin on =>
    obtain ⟨result, ran, seen⟩ := says_return said
    obtain ⟨course, other⟩ := h.operate (Q := fun result => ∀ n, result = .ok n → own k.key on.id ≠ some n) admitted ran
      (fun e apart => (apart.begin fresh).mono fun _ _ _ ⟨aside, other⟩ => ⟨passed_of_aside aside, other⟩)
      fun _ _ same => nomatch same
    refine ⟨course, ?_⟩
    rintro x rfl same
    match result with
    | .ok n =>
      cases seen
      exact other n rfl (own_of_key same)
    | .error (.failed error) => cases seen
    | .error .dropped => cases seen
  | commit x =>
    obtain ⟨result, ran, _⟩ := says_return said
    exact ⟨h.aside admitted ran fun e apart => apart.finish (own_of_key_ne spares) "COMMIT", trivial⟩
  | rollback x =>
    obtain ⟨result, ran, _⟩ := says_return said
    exact ⟨h.aside admitted ran fun e apart => apart.finish (own_of_key_ne spares) "ROLLBACK", trivial⟩
  | release x =>
    obtain ⟨result, ran, _⟩ := says_return (g := fun _ => some ()) said
    refine ⟨h.aside admitted ran fun e apart => ?_, trivial⟩
    exact Dialogue.Monitor.holds_run_lift.mpr (apart.release (own_of_key_ne spares))
  | discard x =>
    obtain ⟨result, ran, _⟩ := says_return (g := fun _ => some ()) said
    refine ⟨h.aside admitted ran fun e apart => ?_, trivial⟩
    exact Dialogue.Monitor.holds_run_lift.mpr (apart.discard (own_of_key_ne spares))

/-- a conversation that goes on after a call that was not dropped -/
theorem says_converse_ask {held : List Connection} {call : Call} {next : call.Answer → Talk α} {a : α}
    (said : ((converse held (.ask call next)).run f).Says t (some a, f')) :
    ∃ reply f₁ front back, t = front ++ back ∧ ((answer call).run f).Says front (some reply, f₁) ∧
      ((converse (heldAfter call reply held) (next reply)).run f₁).Says back (some a, f') := by
  rw [converse, StateT.run_bind] at said
  obtain ⟨front, ⟨reply, f₁⟩, back, rfl, answered, said⟩ := Dialogue.says_bind.mp said
  cases reply with
  | some reply => exact ⟨reply, f₁, front, back, rfl, answered, said⟩
  | none =>
    simp only [StateT.run_bind] at said
    obtain ⟨front', ⟨_, f₂⟩, back', rfl, _, said⟩ := Dialogue.says_bind.mp said
    cases (Dialogue.says_pure.mp said).2

/-- a conversation goes on with what comes of its first part -/
theorem says_converse_bind {held : List Connection} {d : Talk α} {g : α → Talk β} {b : β}
    (said : ((converse held (d >>= g)).run f).Says t (some b, f')) :
    ∃ a f₁ held' front back, t = front ++ back ∧ ((converse held d).run f).Says front (some a, f₁) ∧
      ((converse held' (g a)).run f₁).Says back (some b, f') := by
  induction d generalizing f held t with
  | done a => exact ⟨a, f, held, [], t, rfl, .done _, said⟩
  | ask call next ih =>
    obtain ⟨reply, f₁, front, back, rfl, answered, said⟩ := says_converse_ask said
    obtain ⟨a, f₂, held', front', back', rfl, first, second⟩ := ih reply said
    refine ⟨a, f₂, held', front ++ front', back', (List.append_assoc ..).symm, ?_, second⟩
    rw [converse, StateT.run_bind]
    exact Dialogue.says_bind.mpr ⟨front, _, front', rfl, answered, first⟩

/-- a conversation that spares the transaction -/
theorem Reserves.converse {held : List Connection} {d : Talk α} {a : α} (h : f.Reserves c k.key) (fresh : ¬ new c)
    (admitted : ∀ y ∈ t, ∀ n, given? y = some n → new n) (spares : Talk.Spares commands k d)
    (said : ((converse held d).run f).Says t (some a, f')) : Course commands c k.key f (hear c t) f' := by
  induction d generalizing f held t with
  | done b =>
    obtain ⟨rfl, same⟩ := Dialogue.says_pure.mp said
    cases same
    exact h.stay
  | ask call next ih =>
    obtain ⟨reply, f₁, front, back, rfl, answered, said⟩ := says_converse_ask said
    obtain ⟨course, other⟩ :=
      h.answer fresh (fun y mem => admitted y (List.mem_append_left _ mem)) spares.1 answered
    rw [hear_append]
    exact course.trans (ih reply course.reserves (fun y mem => admitted y (List.mem_append_right _ mem))
      (spares.2 reply other) said)

/-! ## The beginning and the end of a scope -/

/-- an engine of a fleet whose connections are accounted for and belong to no other engine -/
structure Ready (f : Fleet) (db : Database) (e : Engine) (w : Watch) : Prop where
  here : f.engine? db = some e
  custody : Custody [] e w
  others : ∀ id e', id ≠ db.id → f.engines.lookup id = some e' → ∀ c, e'.Uses c → c ∈ w.known ∧ ¬ e.Uses c

/-- an engine that is alone in its fleet shares no connection -/
theorem Ready.alone {e : Engine} {w : Watch} (custody : Custody [] e w) : Ready ⟨[(db.id, e)]⟩ db e w where
  here := List.lookup_cons_self
  custody := custody
  others id e' other found := by
    have absent : List.lookup id [(db.id, e)] = none := by
      rw [List.lookup_cons, beq_false_of_ne other]
      rfl
    cases absent.symm.trans found

/-- the engine that began a transaction keeps its connection for it -/
theorem apart_of_granted {e : Engine} {w : Watch} (custody : Custody [c] e w) : Apart c (some e.nextHandle)
    { e with handles := e.handles ++ [(e.nextHandle, ⟨some c, false⟩)], nextHandle := e.nextHandle + 1 } where
  idle mem := custody.apart c mem (custody.ownLent c List.mem_cons_self)
  held n finished mem := by
    rcases List.mem_append.mp mem with mem | mem
    · exact absurd mem (custody.unheld_of_own List.mem_cons_self n finished)
    · cases List.mem_singleton.mp mem
      rfl
  mine n x finished mine mem := by
    cases mine
    rcases List.mem_append.mp mem with mem | mem
    · exact absurd (custody.numbers _ mem) (Nat.lt_irrefl _)
    · cases List.mem_singleton.mp mem
      rfl
  issued n mine := by
    cases mine
    exact Nat.lt_succ_self _

/-- what is begun on a ready engine is begun on a connection outside transactions, and reserves it -/
theorem Ready.begun {e : Engine} {w : Watch} (ready : Ready f db e w)
    (fresh : (Setting.watch ⟨commands, False⟩).Admits w t)
    (said : ((answer (.begin db)).run f).Says t (some (.ok k), f')) :
    ∃ c, c ∉ w.inside ∧ hear c t = [.begun] ∧ k.database = db ∧ f'.Reserves c k.key ∧
      c ∈ (t.foldl (Watch.after commands) w).known := by
  obtain ⟨result, ran, seen⟩ := says_return said
  rcases says_operate ran with ⟨rfl, rfl, error, rfl⟩ | ⟨e₀, e', here, began, rfl⟩
  · cases seen
  cases ready.here.symm.trans here
  match result with
  | .error (.failed error) => cases seen
  | .error .dropped => cases seen
  | .ok n =>
    cases seen
    obtain ⟨c, e₁, front, rfl, out, rfl, rfl⟩ := says_begin began
    obtain ⟨fresh_front, _⟩ := Dialogue.Monitor.admits_append.mp fresh
    obtain ⟨same, custody, outside⟩ := ready.custody.checkOut.afterwards out fresh_front
    have new : ∀ y ∈ front, ∀ n, given? y = some n → n ∉ w.known := Setting.new_of_admits fresh_front
    obtain ⟨⟨_, silent⟩, origin⟩ := heard_of_holds (c := c) listen_checkOut out new
    refine ⟨c, same ▸ outside, ?_, rfl, fun id e' found => ?_, ?_⟩
    · rw [hear_append, silent]
      simp [hear, heard?, Awaited.isRefused, Heard.begun]
    · rw [lookup_withEngine] at found
      by_cases at_db : id = db.id
      · rw [if_pos at_db, at_db, show f.engines.lookup db.id = some e from here] at found
        cases found
        rw [show own (Connection.key ⟨db, e₁.nextHandle⟩) id = some e₁.nextHandle from if_pos at_db]
        exact apart_of_granted custody
      · rw [if_neg at_db] at found
        rw [show own (Connection.key ⟨db, e₁.nextHandle⟩) id = none from if_neg at_db]
        refine apart_of_not_uses fun uses => ?_
        obtain ⟨known, unused⟩ := ready.others id e' at_db found c uses
        exact (origin c rfl).elim (fun idle => unused (.inl idle)) fun unknown => unknown known
    · rw [List.foldl_append]
      exact Watch.known_foldl (custody.lentKnown c (custody.ownLent c List.mem_cons_self)) _

/-- an operation that had a result ran on the engine of its database -/
theorem says_operate_ok {op : Operation α} {a : α} (said : ((operate db op).run f).Says t (.ok a, f')) :
    ∃ e e', f.engines.lookup db.id = some e ∧ (op.run.run e).Says t (.ok a, e') ∧ f' = f.withEngine db e' := by
  rcases says_operate said with ⟨_, _, error, failed⟩ | ran
  · cases failed
  · exact ran

/-- a scope that succeeds is committed on an engine that is open -/
theorem Reserves.concluded {held : List Connection} {ending : Ending α} {a : α} (h : f.Reserves c k.key)
    (said : ((Fleet.converse held (Transaction.conclude k ending)).run f).Says t (some (.finished (.ok a)), f')) :
    ¬ f.Closed k.key.1 ∧ hear c t = [.committed] := by
  match ending with
  | .dropped =>
    obtain ⟨_, _, _, _, _, _, said⟩ := says_converse_ask said
    cases (Dialogue.says_pure.mp said).2
  | .finished (.error err) =>
    obtain ⟨_, _, _, _, _, _, said⟩ := says_converse_ask said
    obtain ⟨_, _, _, _, _, _, said⟩ := says_converse_ask said
    cases (Dialogue.says_pure.mp said).2
  | .finished (.ok b) =>
    obtain ⟨reply, f₁, front, back, rfl, committed, said⟩ := says_converse_ask said
    obtain ⟨_, f₂, front', back', rfl, released, said⟩ := says_converse_ask said
    obtain ⟨rfl, same⟩ := Dialogue.says_pure.mp said
    obtain ⟨result, ended, seen⟩ := says_return committed
    obtain ⟨gone, gave, _⟩ := says_return (g := fun _ => some ()) released
    match result, reply with
    | .error (.failed error), _ => cases seen; cases same
    | .error .dropped, _ => cases seen
    | .ok (), _ =>
      obtain ⟨e, e₁, here, ran, rfl⟩ := says_operate_ok ended
      have apart := h _ e here
      rw [own_of_key rfl] at apart
      obtain ⟨isOpen, heard, finished⟩ := heard_of_holds apart.commit ran (fun _ _ _ _ => trivial) rfl
      refine ⟨fun closed => (nomatch (closed e here).symm.trans isOpen), ?_⟩
      rcases says_operate gave with ⟨rfl, _⟩ | ⟨e₂, e₃, here₂, ran₂, _⟩
      · rw [List.append_nil, List.append_nil, heard]
        rfl
      · have same : (f.withEngine k.database e₁).engines.lookup k.database.id = some e₁ := by
          rw [lookup_withEngine, if_pos rfl, here]
          rfl
        cases same.symm.trans here₂
        have release : (listen c fun _ => True).Holds (liftM (Engine.release k.number) : Operation Unit).run
            (fun _ _ heard => heard = []) e₁ [] := Dialogue.Monitor.holds_run_lift.mpr finished.release
        have silent := heard_of_holds release ran₂ fun _ _ _ _ => trivial
        rw [List.append_nil, hear_append, heard, silent]
        rfl

/-- **What a successful scope leaves.**  Where no number is given to two connections, one outside transactions is taken;
`BEGIN`, plain statements and `COMMIT` come to it, in this order, and nothing else.  If the server refused none of the
statements then all that were carried out take effect, and else none. -/
theorem lasting_of_ok {e : Engine} {w : Watch} {held : List Connection} {active : Active}
    {body : Active → Talk (Ending α)} {a : α} (ready : Ready f db e w)
    (spares : ∀ k : Connection, k.database = db → Talk.Spares commands k (body (Keyed.insert db.name k active)))
    (said : ((converse held (inTransaction id db active body)).run f).Says t (some (.finished (.ok a)), f'))
    (once : (given t).Nodup) (new : ∀ c ∈ given t, c ∉ w.known) :
    ∃ c inner, c ∉ w.inside ∧ (∀ h ∈ inner, h.Plain commands) ∧ hear c t = .begun :: (inner ++ [.committed]) ∧
      (Session.of commands (hear c t)).lasting =
        if inner.any Heard.isRefused then [] else inner.filterMap Heard.deed? := by
  have fresh : (Setting.watch ⟨commands, False⟩).Admits w t := Setting.admits_of_given once new
  unfold inTransaction at said
  split at said
  · cases (Dialogue.says_pure.mp said).2
  · obtain ⟨reply, f₁, front, back, rfl, begun, said⟩ := says_converse_ask said
    match reply with
    | .error error => cases (Dialogue.says_pure.mp said).2
    | .ok k =>
      obtain ⟨fresh_front, fresh_back⟩ := Dialogue.Monitor.admits_append.mp fresh
      obtain ⟨c, outside, opened, own, reserves, known⟩ := ready.begun fresh_front begun
      have others : ∀ y ∈ back, ∀ n, given? y = some n → n ≠ c := by
        rintro y mem _ gives rfl
        exact Setting.new_of_admits fresh_back y mem _ gives known
      obtain ⟨ending, f₂, held', middle, last, rfl, ran, said⟩ :=
        says_converse_bind (d := body (Keyed.insert db.name k active)) (g := Transaction.conclude k) said
      -- had the engine been closed by the body, then `COMMIT` would have failed
      have course := reserves.converse (fun other => other rfl) (fun y mem => others y (List.mem_append_left _ mem))
        (spares k own) ran
      obtain ⟨isOpen, ended⟩ := course.reserves.concluded said
      have heard : hear c (front ++ (middle ++ last)) = .begun :: (hear c middle ++ [.committed]) := by
        rw [hear_append, hear_append, opened, ended]
        rfl
      have plain : ∀ h ∈ hear c middle, h.Plain commands := course.plain isOpen
      exact ⟨c, hear c middle, outside, plain, heard, by rw [heard, Session.of_transaction plain]⟩

/-- a database on this machine -/
def localDatabase : Database := ⟨"default", 0⟩

/-- its engine, opened, with no connection yet -/
def opened : Engine := { config := Reachable.localhost, isOpen := true }

/-- a server that refuses one statement and does everything else -/
def refusing (refused : String) : Unit → (q : Request) → q.Answer × Unit
  | _, .connect .. => (.arrived (.ok 0), ())
  | _, .isAlive _ => (true, ())
  | _, .prepare .. => (.arrived (.ok ⟨[], []⟩), ())
  | _, .execute _ statement _ =>
    if statement = refused then (.arrived (.error (.reported ⟨"23505", "duplicate key", none⟩)), ())
    else (.arrived (.ok 1), ())
  | _, .fetch .. => (.arrived (.ok []), ())
  | _, .wait _ | _, .batch .. => (.arrived (.ok ()), ())
  | _, .cancel _ | _, .shut _ => ((), ())

/-- a body that inserts a row and then another one, whatever comes of it -/
def insertTwice : Transaction.Body Unit :=
  .execute localDatabase "INSERT 1" [] fun _ => .execute localDatabase "INSERT 2" [] fun _ => .finish (.ok ())

/-- the scope around it -/
def insertingTwice : Line (Option (Ending Unit) × Fleet) :=
  (converse [] (inTransaction id localDatabase [] insertTwice.talk)).run ⟨[(localDatabase.id, opened)]⟩

/-- whether a scope returned a value -/
def isOk : Option (Ending Unit) → Bool
  | some (.finished (.ok _)) => true
  | _ => false

theorem says_insertingTwice (refused : String)
    (ok : isOk (Dialogue.run (refusing refused) () insertingTwice).1.1 = true) :
    ∃ f', insertingTwice.Says (Dialogue.transcript (refusing refused) () insertingTwice)
      (some (.finished (.ok ())), f') := by
  have said := Dialogue.says_run (refusing refused) () insertingTwice
  generalize (Dialogue.run (refusing refused) () insertingTwice).1 = done at ok said
  obtain ⟨(_ | (_ | _) | _), f'⟩ := done
  · cases ok
  · cases ok
  · exact ⟨f', said⟩
  · cases ok

theorem lasting_of_ok_inserted :
    let t := Dialogue.transcript (refusing "") () insertingTwice
    (∃ c inner, c ∉ ({} : Watch).inside ∧ (∀ h ∈ inner, h.Plain Reachable.threeCommands) ∧
      hear c t = .begun :: (inner ++ [.committed]) ∧ (Session.of Reachable.threeCommands (hear c t)).lasting =
        if inner.any Heard.isRefused then [] else inner.filterMap Heard.deed?) ∧
    (Session.of Reachable.threeCommands (hear 0 t)).lasting = [("INSERT 1", []), ("INSERT 2", [])] := by
  have custody : Custody [] opened {} := (Custody.new Reachable.localhost 10).withOpen true false
  have ready : Ready ⟨[(localDatabase.id, opened)]⟩ localDatabase opened {} := .alone custody
  have plain : insertTwice.Plain Reachable.threeCommands := ⟨rfl, fun _ => ⟨rfl, fun _ => trivial⟩⟩
  obtain ⟨f', said⟩ := says_insertingTwice "" (by decide +kernel)
  exact ⟨lasting_of_ok ready (fun k _ => Transaction.Body.spares plain _) said (by decide +kernel) (by decide +kernel),
    by decide +kernel⟩

/-- **A successful scope may have lost what succeeded in it.**  The second statement is refused and the body makes
nothing of it: the scope ends well, and the row that was inserted first is gone. -/
theorem lost_though_ok :
    let t := Dialogue.transcript (refusing "INSERT 2") () insertingTwice
    (∃ f', insertingTwice.Says t (some (.finished (.ok ())), f')) ∧
      ("INSERT 1", []) ∈ (hear 0 t).filterMap Heard.deed? ∧
      ("INSERT 1", []) ∉ (Session.of Reachable.threeCommands (hear 0 t)).lasting := by
  exact ⟨says_insertingTwice _ (by decide +kernel), by decide +kernel, by decide +kernel⟩

end Postgres.Fleet

end Tabula
