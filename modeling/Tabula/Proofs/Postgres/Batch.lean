import Tabula.Proofs.Postgres.Routing
/-!
# Batches

A statement with many rows of parameters that is issued outside scopes opens a transaction of its own, runs once for
each row and commits.  At the first fault nothing more is sent but `ROLLBACK`, and where that is refused the connection
is closed.  `Batch.Succeeds` and `Batch.Fails` say in full what the server is asked; `Fleet.all_or_nothing` says that
there is nothing else, and what is left on the server.
-/

namespace Tabula

open Postgres Engine Dialogue

namespace Postgres

variable {α β : Type} {c n total : Nat} {e e' : Engine} {t : List Reply} {statement : String} {p : Prepared}
  {rows : List (List Value)}

/-! ## What operations say -/

/-- an operation stops where its first part does, or goes on with the rest -/
theorem says_run_bind {x : Operation α} {g : α → Operation β} {result : Except Halt β} :
    ((x >>= g).run.run e).Says t (result, e') ↔
      (∃ halt, result = .error halt ∧ (x.run.run e).Says t (.error halt, e')) ∨
      ∃ front a e₁ back, t = front ++ back ∧ (x.run.run e).Says front (.ok a, e₁) ∧
        ((g a).run.run e₁).Says back (result, e') := by
  rw [ExceptT.run_bind, StateT.run_bind, Dialogue.says_bind]
  constructor
  · rintro ⟨front, ⟨halt | a, e₁⟩, back, rfl, first, rest⟩
    · obtain ⟨rfl, same⟩ := Dialogue.says_pure.mp rest
      cases same
      exact .inl ⟨halt, rfl, (List.append_nil front).symm ▸ first⟩
    · exact .inr ⟨front, a, e₁, back, rfl, first, rest⟩
  · rintro (⟨halt, rfl, first⟩ | ⟨front, a, e₁, back, rfl, first, rest⟩)
    · exact ⟨t, (.error halt, e'), [], (List.append_nil t).symm, first, Dialogue.says_pure.mpr ⟨rfl, rfl⟩⟩
    · exact ⟨front, (.ok a, e₁), back, rfl, first, rest⟩

theorem says_run_attempt_bind {x : Operation α} {g : Except Halt α → Operation β} {result : Except Halt β} :
    ((attempt x >>= g).run.run e).Says t (result, e') ↔ ∃ front r e₁ back, t = front ++ back ∧
      (x.run.run e).Says front (r, e₁) ∧ ((g r).run.run e₁).Says back (result, e') := by
  have attempted : (attempt x >>= g).run.run e = x.run.run e >>= fun r => (g r.1).run.run r.2 := by
    rw [ExceptT.run_bind, StateT.run_bind, attempt, ExceptT.run_mk, StateT.run_bind, bind_assoc]
    rfl
  rw [attempted, Dialogue.says_bind]
  constructor
  · rintro ⟨front, ⟨r, e₁⟩, back, rfl, first, rest⟩
    exact ⟨front, r, e₁, back, rfl, first, rest⟩
  · rintro ⟨front, r, e₁, back, rfl, first, rest⟩
    exact ⟨front, (r, e₁), back, rfl, first, rest⟩

theorem says_run_lift_bind {x : Postgres.Task α} {g : α → Operation β} {result : Except Halt β} :
    ((liftM x >>= g).run.run e).Says t (result, e') ↔ ∃ front a e₁ back, t = front ++ back ∧
      (x.run e).Says front (a, e₁) ∧ ((g a).run.run e₁).Says back (result, e') := by
  have lifted : (liftM x >>= g).run.run e = x.run e >>= fun r => (g r.1).run.run r.2 := by
    rw [ExceptT.run_bind, StateT.run_bind, show (liftM x : Operation α).run = Except.ok <$> x from rfl, StateT.run_map,
      bind_map_left]
  rw [lifted, Dialogue.says_bind]
  constructor
  · rintro ⟨front, ⟨a, e₁⟩, back, rfl, first, rest⟩
    exact ⟨front, a, e₁, back, rfl, first, rest⟩
  · rintro ⟨front, a, e₁, back, rfl, first, rest⟩
    exact ⟨front, (a, e₁), back, rfl, first, rest⟩

theorem result_eq_ok {answer : Awaited α} {a : α} : answer.result = .ok a ↔ answer = .arrived (.ok a) := by
  match answer with
  | .arrived (.ok b) => simp [Awaited.result]
  | .arrived (.error f) => simp [Awaited.result]
  | .dropped => simp [Awaited.result]

theorem result_eq_failed {answer : Awaited α} {err : Error} :
    answer.result = .error (.failed err) ↔ ∃ f, answer = .arrived (.error f) ∧ err = f.toError := by
  match answer with
  | .arrived (.ok a) => simp [Awaited.result]
  | .arrived (.error f) => simp [Awaited.result, eq_comm]
  | .dropped => simp [Awaited.result]

theorem says_settled {answer : Awaited α} {result : Except Halt α} :
    ((settled answer).run.run e).Says t (result, e') ↔ t = [] ∧ result = answer.result ∧ e' = e := by
  match answer with
  | .arrived (.ok a) => exact Dialogue.says_pure.trans (by simp [Awaited.result])
  | .arrived (.error f) => exact Dialogue.says_pure.trans (by simp [Awaited.result])
  | .dropped => exact Dialogue.says_pure.trans (by simp [Awaited.result])

theorem says_run_get_bind {g : Engine → Operation α} {result : Except Halt α} :
    ((get >>= g).run.run e).Says t (result, e') ↔ ((g e).run.run e).Says t (result, e') := Iff.rfl

/-- a request whose answer is waited for -/
theorem says_asked {r : Request} {g : r.Answer → Operation α} {result : Except Halt α} :
    ((liftM (Engine.ask r) >>= g).run.run e).Says t (result, e') ↔
      ∃ answer back, t = ⟨r, answer⟩ :: back ∧ ((g answer).run.run e).Says back (result, e') := Dialogue.says_ask

theorem says_scriptOn {text : String} {result : Except Halt Unit} :
    ((scriptOn c text).run.run e).Says t (result, e') ↔
      ∃ answer : Awaited Unit, t = [⟨.batch c text, answer⟩] ∧ result = answer.result ∧ e' = e := by
  rw [scriptOn, says_asked]
  constructor
  · rintro ⟨answer, back, rfl, rest⟩
    obtain ⟨rfl, rfl, rfl⟩ := says_settled.mp rest
    exact ⟨answer, rfl, rfl, rfl⟩
  · rintro ⟨answer, rfl, rfl, rfl⟩
    exact ⟨answer, [], rfl, says_settled.mpr ⟨rfl, rfl, rfl⟩⟩

/-- what is heard of a transaction, up to its end -/
theorem Session.of_begun {commands : Commands} {inner last : List Heard} (plain : ∀ h ∈ inner, h.Plain commands) : Session.of commands (.begun :: (inner ++ last)) =
    last.foldl (after commands) ⟨[], some ⟨inner.filterMap Heard.deed?, inner.any Heard.isRefused⟩⟩ := by
  have opens : after commands {} .begun = ⟨[], some {}⟩ := by simp [after, Heard.begun, commands.begin_, opened]
  rw [of, List.foldl_cons, opens, List.foldl_append, foldl_plain plain]
  rfl

namespace Batch

/-! ## The rows -/

/-- a row that was carried out: the parameters that were sent, and how many rows of the table they touched -/
abbrev Effect := List Cell × Nat

/-- the request of a row that was carried out -/
def Effect.reply (c : Nat) (statement : String) (d : Effect) : Reply :=
  ⟨.execute c statement d.1, Awaited.arrived (.ok d.2)⟩

/-- what a row that was carried out did -/
def Effect.deed (statement : String) (d : Effect) : Deed := (statement, d.1)

/-- how many rows of the table were touched in all -/
def touched (done : List Effect) : Nat := done.foldr (fun d n => d.2 + n) 0

/-- whether rows were carried out, one for one and in order -/
def Sent (p : Prepared) : List (List Value) → List Effect → Prop :=
  List.Forall₂ fun row d => encodeAll p row = .ok d.1

/-- why the rows stop at one of them, and what was asked for it -/
inductive Stops (c : Nat) (statement : String) (p : Prepared) (row : List Value) : List Reply → Halt → Prop where
  /-- its parameters cannot be sent -/
  | unsent {f : Fault} (unencoded : encodeAll p row = .error f) : Stops c statement p row [] (.failed f.toError)
  | refused {cells : List Cell} (encoded : encodeAll p row = .ok cells) (f : Fault) :
    Stops c statement p row [⟨.execute c statement cells, Awaited.arrived (.error f)⟩] (.failed f.toError)
  | dropped {cells : List Cell} (encoded : encodeAll p row = .ok cells) :
    Stops c statement p row [⟨.execute c statement cells, Awaited.dropped⟩] .dropped

/-- how running a statement for rows ends, and all that was asked for it -/
inductive Rows (c : Nat) (statement : String) (p : Prepared) (total : Nat) (rows : List (List Value)) :
    List Reply → Except Halt Nat → Prop where
  | all {done : List Effect} (sent : Sent p rows done) :
    Rows c statement p total rows (done.map (Effect.reply c statement)) (.ok (total + touched done))
  | stopped {before rest : List (List Value)} {row : List Value} {done : List Effect} {last : List Reply} {halt : Halt}
    (split : rows = before ++ row :: rest) (sent : Sent p before done) (stops : Stops c statement p row last halt) :
    Rows c statement p total rows (done.map (Effect.reply c statement) ++ last) (.error halt)

/-- one row more in front -/
theorem Rows.cons {row : List Value} {d : Effect} {result : Except Halt Nat} (encoded : encodeAll p row = .ok d.1)
    (h : Rows c statement p (total + d.2) rows t result) :
    Rows c statement p total (row :: rows) (d.reply c statement :: t) result := by
  cases h with
  | @all done sent =>
    rw [Nat.add_assoc]
    exact .all (.cons encoded sent)
  | @stopped before rest row' done last halt split sent stops =>
    subst split
    have sent' : Sent p (row :: before) (d :: done) := .cons encoded sent
    exact Rows.stopped List.cons_append.symm sent' stops

/-- one row: it is carried out, or everything stops at it -/
theorem says_runPrepared {row : List Value} {result : Except Halt Nat}
    (said : ((runPrepared c statement p row).run.run e).Says t (result, e')) :
    e' = e ∧ ((∃ d : Effect, encodeAll p row = .ok d.1 ∧ t = [d.reply c statement] ∧ result = .ok d.2) ∨
      ∃ halt, result = .error halt ∧ Stops c statement p row t halt) := by
  cases found : encodeAll p row with
  | error f =>
    rw [runPrepared, found] at said
    obtain ⟨rfl, same⟩ := Dialogue.says_pure.mp said
    cases same
    exact ⟨rfl, .inr ⟨_, rfl, .unsent found⟩⟩
  | ok cells =>
    rw [runPrepared, found] at said
    obtain ⟨answer, back, rfl, rest⟩ := says_asked.mp said
    obtain ⟨rfl, rfl, rfl⟩ := says_settled.mp rest
    refine ⟨rfl, ?_⟩
    match answer with
    | .arrived (.ok n) => exact .inl ⟨(cells, n), rfl, rfl, rfl⟩
    | .arrived (.error f) => exact .inr ⟨_, rfl, .refused found f⟩
    | .dropped => exact .inr ⟨_, rfl, .dropped found⟩

/-- rows are carried out in order, up to the first that fails -/
theorem says_runRows {result : Except Halt Nat}
    (said : ((runRows c statement p total rows).run.run e).Says t (result, e')) :
    e' = e ∧ Rows c statement p total rows t result := by
  induction rows generalizing total t with
  | nil =>
    obtain ⟨rfl, same⟩ := Dialogue.says_pure.mp said
    cases same
    exact ⟨rfl, .all .nil⟩
  | cons row rest ih =>
    rw [runRows] at said
    rcases says_run_bind.mp said with ⟨halt, rfl, stopped⟩ | ⟨front, n, e₁, back, rfl, first, later⟩
    · obtain ⟨rfl, ⟨d, _, _, ⟨⟩⟩ | ⟨_, same, stops⟩⟩ := says_runPrepared stopped
      cases same
      have sent : Sent p [] [] := .nil
      exact ⟨rfl, Rows.stopped (List.nil_append _).symm sent stops⟩
    · obtain ⟨rfl, ⟨d, encoded, rfl, same⟩ | ⟨_, ⟨⟩, _⟩⟩ := says_runPrepared first
      cases same
      obtain ⟨rfl, rows⟩ := ih later
      exact ⟨rfl, rows.cons encoded⟩

/-! ## The whole batch -/

/-- what the server knows of a statement, and what was asked to learn it: a connection that knows it is not asked -/
inductive Asked (e : Engine) (c : Nat) (statement : String) : List Reply → Prepared → Prop where
  | known {p : Prepared} (found : e.prepared.lookup (c, statement) = some p) : Asked e c statement [] p
  | told (unknown : e.prepared.lookup (c, statement) = none) (p : Prepared) :
    Asked e c statement [⟨.prepare c statement, Awaited.arrived (.ok p)⟩] p

/-- a statement without parameters that was carried out -/
def succeeded (c : Nat) (text : String) : Reply := ⟨.batch c text, Awaited.arrived (.ok ())⟩

/-- one that was refused -/
def refused (c : Nat) (text : String) (f : Fault) : Reply := ⟨.batch c text, Awaited.arrived (.error f)⟩

/-- a transaction is taken back: the server does so when it is asked, or the connection is closed -/
inductive TakenBack (c : Nat) : List Reply → Prop where
  | rolledBack : TakenBack c [succeeded c "ROLLBACK"]
  | shut (f : Fault) : TakenBack c [refused c "ROLLBACK" f, ⟨.shut c, ()⟩]

/-- the error of a batch on a connection where a fault stops it, and all that the server is asked -/
inductive Fails (e : Engine) (c : Nat) (statement : String) (rows : List (List Value)) : List Reply → Error → Prop where
  /-- no transaction is opened -/
  | unopened (f : Fault) : Fails e c statement rows [refused c "BEGIN" f] f.toError
  | unprepared {ending : List Reply} (unknown : e.prepared.lookup (c, statement) = none) (f : Fault)
    (back : TakenBack c ending) : Fails e c statement rows
      (succeeded c "BEGIN" :: ⟨.prepare c statement, Awaited.arrived (.error f)⟩ :: ending) f.toError
  /-- a row stops the others -/
  | stopped {first last ending : List Reply} {p : Prepared} {before rest : List (List Value)} {row : List Value}
    {done : List Effect} {err : Error} (asked : Asked e c statement first p) (split : rows = before ++ row :: rest)
    (sent : Sent p before done) (stops : Stops c statement p row last (.failed err)) (back : TakenBack c ending) :
    Fails e c statement rows
      (succeeded c "BEGIN" :: (first ++ done.map (Effect.reply c statement) ++ last ++ ending)) err
  | uncommitted {first : List Reply} {p : Prepared} {done : List Effect} (asked : Asked e c statement first p)
    (sent : Sent p rows done) (f : Fault) : Fails e c statement rows
      (succeeded c "BEGIN" :: (first ++ done.map (Effect.reply c statement) ++ [refused c "COMMIT" f])) f.toError

/-- a batch on a connection that succeeds, with all that the server is asked -/
inductive Succeeds (e : Engine) (c : Nat) (statement : String) (rows : List (List Value)) (done : List Effect) :
    List Reply → Prop where
  | committed {first : List Reply} {p : Prepared} (asked : Asked e c statement first p) (sent : Sent p rows done) :
    Succeeds e c statement rows done
      (succeeded c "BEGIN" :: (first ++ done.map (Effect.reply c statement) ++ [succeeded c "COMMIT"]))

/-- a statement is prepared, unless it is known -/
theorem says_prepare {result : Except Halt Prepared}
    (said : ((prepare c statement).run.run e).Says t (result, e')) : e'.closed = e.closed ∧
      ((∃ p, result = .ok p ∧ Asked e c statement t p) ∨
        e.prepared.lookup (c, statement) = none ∧ ∃ answer : Awaited Prepared, t = [⟨.prepare c statement, answer⟩] ∧
          ∃ halt, result = .error halt ∧ answer.result = .error halt) := by
  rw [prepare, says_run_get_bind] at said
  split at said
  · next p found =>
    obtain ⟨rfl, same⟩ := Dialogue.says_pure.mp said
    cases same
    exact ⟨rfl, .inl ⟨p, rfl, .known found⟩⟩
  · next unknown =>
    obtain ⟨answer, back, rfl, replied⟩ := says_asked.mp said
    rcases says_run_bind.mp replied with ⟨halt, rfl, stopped⟩ | ⟨front, p, e₁, rest, rfl, told, kept⟩
    · obtain ⟨rfl, failed, rfl⟩ := says_settled.mp stopped
      exact ⟨rfl, .inr ⟨unknown, answer, rfl, halt, rfl, failed.symm⟩⟩
    · obtain ⟨rfl, arrived, rfl⟩ := says_settled.mp told
      obtain ⟨rfl, same⟩ := Dialogue.says_pure.mp kept
      cases same
      obtain rfl := result_eq_ok.mp arrived.symm
      exact ⟨rfl, .inl ⟨p, rfl, .told unknown p⟩⟩

/-- how a statement for many rows ends, inside a transaction -/
theorem says_executeManyOn {result : Except Halt Nat}
    (said : ((executeManyOn c statement rows).run.run e).Says t (result, e')) : e'.closed = e.closed ∧
      ((∃ first p rest, t = first ++ rest ∧ Asked e c statement first p ∧ Rows c statement p 0 rows rest result) ∨
        e.prepared.lookup (c, statement) = none ∧ ∃ answer : Awaited Prepared, t = [⟨.prepare c statement, answer⟩] ∧
          ∃ halt, result = .error halt ∧ answer.result = .error halt) := by
  rcases says_run_bind.mp said with ⟨halt, rfl, stopped⟩ | ⟨front, p, e₁, back, rfl, known, rest⟩
  · obtain ⟨closed, ⟨_, ⟨⟩, _⟩ | ⟨unknown, answer, rfl, _, same, failed⟩⟩ := says_prepare stopped
    cases same
    exact ⟨closed, .inr ⟨unknown, answer, rfl, halt, rfl, failed⟩⟩
  · obtain ⟨closed, ⟨p', same, asked⟩ | ⟨_, _, _, _, ⟨⟩, _⟩⟩ := says_prepare known
    cases same
    obtain ⟨rfl, rows⟩ := says_runRows rest
    exact ⟨closed, .inl ⟨front, p, back, rfl, asked, rows⟩⟩

theorem says_shut {u : Unit} (said : ((shut c).run e).Says t (u, e')) : e'.closed = e.closed ∧ t = [⟨.shut c, ()⟩] := by
  obtain ⟨answer, rest, rfl, done⟩ := Dialogue.says_ask.mp said
  obtain ⟨rfl, same⟩ := Dialogue.says_pure.mp done
  cases same
  exact ⟨rfl, rfl⟩

/-- a failed batch is taken back and ends with its own error -/
theorem says_concludeBatch_failed {err : Error} {result : Except Halt Nat} (waited : result ≠ .error .dropped)
    (said : ((concludeBatch c (.error (.failed err))).run.run e).Says t (result, e')) :
    e'.closed = e.closed ∧ TakenBack c t ∧ result = .error (.failed err) := by
  obtain ⟨front, r, e₁, back, rfl, rollback, rest⟩ := says_run_attempt_bind.mp said
  obtain ⟨answer, rfl, rfl, rfl⟩ := says_scriptOn.mp rollback
  match answer with
  | .arrived (.ok ()) =>
    obtain ⟨rfl, same⟩ := Dialogue.says_pure.mp rest
    cases same
    exact ⟨rfl, .rolledBack, rfl⟩
  | .arrived (.error f) =>
    obtain ⟨front, _, e₂, last, rfl, closing, ended⟩ := says_run_lift_bind.mp rest
    obtain ⟨closed, rfl⟩ := says_shut closing
    obtain ⟨rfl, same⟩ := Dialogue.says_pure.mp ended
    cases same
    exact ⟨closed, .shut f, rfl⟩
  | .dropped =>
    obtain ⟨rfl, same⟩ := Dialogue.says_pure.mp rest
    cases same
    exact absurd rfl waited

theorem says_concludeBatch_ok {result : Except Halt Nat} (waited : result ≠ .error .dropped)
    (said : ((concludeBatch c (.ok n)).run.run e).Says t (result, e')) : e' = e ∧
      (t = [succeeded c "COMMIT"] ∧ result = .ok n ∨
        ∃ f : Fault, t = [refused c "COMMIT" f] ∧ result = .error (.failed f.toError)) := by
  rcases says_run_bind.mp said with ⟨halt, rfl, commit⟩ | ⟨front, _, e₁, back, rfl, commit, rest⟩
  · obtain ⟨answer, rfl, failed, rfl⟩ := says_scriptOn.mp commit
    cases halt with
    | dropped => exact absurd rfl waited
    | failed err =>
      obtain ⟨f, rfl, rfl⟩ := result_eq_failed.mp failed.symm
      exact ⟨rfl, .inr ⟨f, rfl, rfl⟩⟩
  · obtain ⟨answer, rfl, done, rfl⟩ := says_scriptOn.mp commit
    obtain rfl := result_eq_ok.mp done.symm
    obtain ⟨rfl, same⟩ := Dialogue.says_pure.mp rest
    cases same
    exact ⟨rfl, .inl ⟨rfl, rfl⟩⟩

/-- a batch on a connection succeeds as a whole or fails with its first fault -/
theorem says_batch {result : Except Halt Nat} (waited : result ≠ .error .dropped)
    (said : ((do
      scriptOn c "BEGIN"
      concludeBatch c (← attempt (executeManyOn c statement rows)) : Operation Nat).run.run e).Says t (result, e')) :
    e'.closed = e.closed ∧
      ((∃ done, Succeeds e c statement rows done t ∧ result = .ok (touched done)) ∨
        ∃ err, Fails e c statement rows t err ∧ result = .error (.failed err)) := by
  rcases says_run_bind.mp said with ⟨halt, rfl, opening⟩ | ⟨_, _, e₁, _, rfl, opening, inside⟩
  · obtain ⟨answer, rfl, failed, rfl⟩ := says_scriptOn.mp opening
    cases halt with
    | dropped => exact absurd rfl waited
    | failed err =>
      obtain ⟨f, rfl, rfl⟩ := result_eq_failed.mp failed.symm
      exact ⟨rfl, .inr ⟨_, .unopened f, rfl⟩⟩
  obtain ⟨answer, rfl, done, rfl⟩ := says_scriptOn.mp opening
  obtain rfl := result_eq_ok.mp done.symm
  obtain ⟨said, r, e₂, ending, rfl, work, conclusion⟩ := says_run_attempt_bind.mp inside
  obtain ⟨kept, ⟨first, p, rest, rfl, asked, rows⟩ | ⟨unknown, answer, rfl, halt, rfl, failed⟩⟩ :=
    says_executeManyOn work
  · cases rows with
    | @all done sent =>
      rw [Nat.zero_add] at conclusion
      obtain ⟨rfl, ⟨rfl, rfl⟩ | ⟨f, rfl, rfl⟩⟩ := says_concludeBatch_ok waited conclusion
      · exact ⟨kept, .inl ⟨done, .committed asked sent, rfl⟩⟩
      · exact ⟨kept, .inr ⟨_, .uncommitted asked sent f, rfl⟩⟩
    | @stopped before rest row done last halt split sent stops =>
      cases halt with
      | dropped => exact absurd (Prod.mk.inj (Dialogue.says_pure.mp conclusion).2).1 waited
      | failed err =>
        obtain ⟨closed, back, rfl⟩ := says_concludeBatch_failed waited conclusion
        refine ⟨closed.trans kept, .inr ⟨err, ?_, rfl⟩⟩
        rw [← List.append_assoc first]
        exact .stopped asked split sent stops back
  · cases halt with
    | dropped => exact absurd (Prod.mk.inj (Dialogue.says_pure.mp conclusion).2).1 waited
    | failed err =>
      obtain ⟨f, rfl, rfl⟩ := result_eq_failed.mp failed
      obtain ⟨closed, back, rfl⟩ := says_concludeBatch_failed waited conclusion
      exact ⟨closed.trans kept, .inr ⟨_, .unprepared unknown f back, rfl⟩⟩

/-! ## On a connection of the pool -/

theorem closed_of_checkOut (out : (checkOut.run.run e).Says t (.ok c, e')) : e'.closed = false := by
  have any : ∀ y ∈ t, ∀ n, given? y = some n → True := fun _ _ _ _ => trivial
  have fewer := (heard_of_holds (c := 0) listen_checkOut out any).1.1
  rw [fewer.closed]
  by_contra closed
  rw [Bool.not_eq_false] at closed
  rw [checkOut, says_run_get_bind, closed] at out
  cases (Dialogue.says_pure.mp out).2

/-- taking a connection from the pool is heard on no connection -/
theorem hear_checkOut {result : Except Halt Nat} (out : (checkOut.run.run e).Says t (result, e')) (x : Nat) :
    hear x t = [] := by
  have any : ∀ y ∈ t, ∀ n, given? y = some n → True := fun _ _ _ _ => trivial
  exact (heard_of_holds listen_checkOut out any).1.2

/-- while the engine is open a connection is taken back without a request -/
theorem says_giveBack {u : Unit} (isOpen : e.closed = false) (said : ((giveBack c).run e).Says t (u, e')) : t = [] := by
  rw [giveBack, StateT.run_bind, StateT.run_get, pure_bind] at said
  simp only [isOpen] at said
  split at said
  · exact (Dialogue.says_pure.mp said).1
  · exact (Dialogue.says_pure.mp said).1

/-- an operation on a connection of the pool that leaves the engine open says nothing more -/
theorem says_onConnection {op : Nat → Operation α} {result : Except Halt α}
    (said : ((onConnection op).run.run e).Says t (result, e'))
    (stays : ∀ {c e₁ t r e₂}, r = result → ((op c).run.run e₁).Says t (r, e₂) → e₂.closed = e₁.closed) :
    (∃ halt e₁, result = .error halt ∧ (checkOut.run.run e).Says t (.error halt, e₁)) ∨
      ∃ front c e₁ back e₂, t = front ++ back ∧ (checkOut.run.run e).Says front (.ok c, e₁) ∧
        ((op c).run.run e₁).Says back (result, e₂) := by
  rcases says_run_bind.mp said with ⟨halt, rfl, out⟩ | ⟨front, c, e₁, rest, rfl, out, inside⟩
  · exact .inl ⟨halt, e', rfl, out⟩
  obtain ⟨back, r, e₂, last, rfl, ran, ending⟩ := says_run_attempt_bind.mp inside
  obtain ⟨given, _, e₃, nothing, rfl, taken, ended⟩ := says_run_lift_bind.mp ending
  have same : nothing = [] ∧ r = result := by
    cases r with
    | ok a =>
      obtain ⟨rfl, same⟩ := Dialogue.says_pure.mp ended
      exact ⟨rfl, (Prod.mk.inj same).1.symm⟩
    | error halt =>
      obtain ⟨rfl, same⟩ := Dialogue.says_pure.mp ended
      exact ⟨rfl, (Prod.mk.inj same).1.symm⟩
  obtain ⟨rfl, rfl⟩ := same
  obtain rfl := says_giveBack ((stays rfl ran).trans (closed_of_checkOut out)) taken
  exact .inr ⟨front, c, e₁, back, e₂, by simp, out, ran⟩

/-- a batch outside scopes runs on a connection of the pool, if it gets one -/
theorem says_executeMany {result : Except Halt Nat} (waited : result ≠ .error .dropped)
    (said : ((Engine.executeMany statement rows).run.run e).Says t (result, e')) :
    (∃ halt e₁, result = .error halt ∧ (checkOut.run.run e).Says t (.error halt, e₁)) ∨
      ∃ front c e₁ back, t = front ++ back ∧ (checkOut.run.run e).Says front (.ok c, e₁) ∧
        (∀ y, c ≠ y → hear y back = []) ∧
        ((∃ done, Succeeds e₁ c statement rows done back ∧ result = .ok (touched done)) ∨
          ∃ err, Fails e₁ c statement rows back err ∧ result = .error (.failed err)) := by
  refine (says_onConnection said fun same ran => ?_).imp_right ?_
  · exact (says_batch (same ▸ waited) ran).1
  · rintro ⟨front, c, e₁, back, e₂, rfl, out, ran⟩
    exact ⟨front, c, e₁, back, rfl, out, fun y other => (minds_batch statement rows).silent ran other,
      (says_batch waited ran).2⟩

/-! ## What the server keeps -/

variable {commands : Commands} {inner : List Heard}

theorem hear_effects (done : List Effect) :
    hear c (done.map (Effect.reply c statement)) = done.map fun d => .ran statement d.1 false := by
  induction done with
  | nil => rfl
  | cons d rest ih =>
    rw [List.map_cons, hear_cons, ih, List.map_cons]
    simp [Effect.reply, heard?, Awaited.isRefused]

theorem Asked.hear {first : List Reply} (h : Asked e c statement first p) :
    hear c first = [] ∨ hear c first = [.prepared false] := by
  cases h with
  | known => exact .inl rfl
  | told => exact .inr (by simp [Postgres.hear, heard?, Awaited.isRefused])

/-- what is heard of the statement and its rows is plain, and nothing but the rows is carried out -/
theorem Asked.heard {first : List Reply} (h : Asked e c statement first p) (plain : commands.of statement = none)
    (done : List Effect) :
    let inner := Postgres.hear c (first ++ done.map (Effect.reply c statement))
    (∀ h ∈ inner, h.Plain commands) ∧ inner.any Heard.isRefused = false ∧
      inner.filterMap Heard.deed? = done.map (Effect.deed statement) := by
  have rows : ∀ h ∈ done.map fun d : Effect => Heard.ran statement d.1 false, h.Plain commands := by
    intro h mem
    obtain ⟨d, _, rfl⟩ := List.mem_map.mp mem
    exact plain
  have unrefused : (done.map fun d : Effect => Heard.ran statement d.1 false).any Heard.isRefused = false := by
    simp [Heard.isRefused]
  have deeds : (done.map fun d : Effect => Heard.ran statement d.1 false).filterMap Heard.deed? =
      done.map (Effect.deed statement) := by
    rw [List.filterMap_map]
    exact congrFun List.filterMap_eq_map done
  rw [hear_append, hear_effects]
  rcases h.hear with silent | told
  · rw [silent]
    exact ⟨rows, unrefused, deeds⟩
  · rw [told]
    exact ⟨List.forall_mem_cons.mpr ⟨trivial, rows⟩, unrefused, deeds⟩

/-- **What a batch leaves on the server if it succeeds: what all its rows did.** -/
theorem Succeeds.session {done : List Effect} (h : Succeeds e c statement rows done t)
    (plain : commands.of statement = none) :
    Session.of commands (hear c t) = ⟨done.map (Effect.deed statement), none⟩ := by
  obtain ⟨asked, sent⟩ := h
  next first p =>
  obtain ⟨plainly, unrefused, deeds⟩ := asked.heard plain done
  have heard : hear c (succeeded c "BEGIN" :: (first ++ done.map (Effect.reply c statement) ++ [succeeded c "COMMIT"])) =
      .begun :: (hear c (first ++ done.map (Effect.reply c statement)) ++ [.committed]) := by
    rw [hear_cons, hear_append]
    simp [hear, succeeded, heard?, Awaited.isRefused, Heard.begun, Heard.committed]
  rw [heard, Session.of_transaction plainly, unrefused, deeds]
  rfl

/-- a transaction that is taken back leaves nothing -/
theorem TakenBack.session {ending : List Reply} (h : TakenBack c ending) (plain : ∀ h ∈ inner, h.Plain commands) :
    Session.of commands (.begun :: (inner ++ hear c ending)) = {} := by
  rw [Session.of_begun plain]
  cases h with
  | rolledBack =>
    simp [hear, succeeded, heard?, Awaited.isRefused, Session.after, commands.rollback, Session.takenBack]
  | shut f =>
    simp [hear, refused, heard?, Awaited.isRefused, Session.after, commands.rollback, Session.takenBack, Session.refused]

theorem Stops.plain {row : List Value} {last : List Reply} {halt : Halt} (h : Stops c statement p row last halt)
    (plain : commands.of statement = none) : ∀ h ∈ hear c last, h.Plain commands := by
  cases h with
  | unsent => exact fun _ mem => absurd mem List.not_mem_nil
  | refused => simpa [hear, heard?, Heard.Plain] using plain
  | dropped => simpa [hear, heard?, Heard.Plain] using plain

/-- **What a batch leaves on the server if it fails: nothing.** -/
theorem Fails.session {err : Error} (h : Fails e c statement rows t err) (plain : commands.of statement = none) :
    Session.of commands (hear c t) = {} := by
  have opening (rest : List Reply) : hear c (succeeded c "BEGIN" :: rest) = .begun :: hear c rest := by
    rw [hear_cons]
    simp [succeeded, heard?, Awaited.isRefused, Heard.begun]
  cases h with
  | unopened f =>
    simp [hear, refused, heard?, Awaited.isRefused, Session.of, Session.after, commands.begin_, Session.refused]
  | unprepared unknown f back =>
    have asked : (heard? c ⟨.prepare c statement, Awaited.arrived (.error f)⟩).toList = [.prepared true] := by
      simp [heard?, Awaited.isRefused]
    rw [opening, hear_cons, asked]
    exact back.session (List.forall_mem_singleton.mpr trivial)
  | @stopped first last ending p before rest row done err asked split sent stops back =>
    rw [opening, hear_append, hear_append]
    refine back.session fun h mem => ?_
    rcases List.mem_append.mp mem with mem | mem
    · exact (asked.heard plain done).1 h mem
    · exact stops.plain plain h mem
  | @uncommitted first p done asked sent f =>
    rw [opening, hear_append, Session.of_begun (asked.heard plain done).1]
    simp [hear, refused, heard?, Awaited.isRefused, Session.after, commands.commit, Session.takenBack]

end Batch

namespace Fleet

open Transaction Batch

variable {f f' : Fleet} {on : Database} {active : Active} {outcome : Outcome Nat}

/-- **A batch outside scopes is all or nothing.**  If it succeeds then `BEGIN`, all rows in order and `COMMIT` were
carried out on one connection and nothing else was sent to any; its result is the sum of the counts.  If it fails then
nothing was sent after the first fault but what takes the transaction back, and its error is that of the first fault.
On the server a batch that succeeded leaves what all its rows did, and one that failed leaves nothing. -/
theorem all_or_nothing (unscoped : on.pinned active = none)
    (said : ((converse [] ((Statement.executeMany statement rows).issue on active)).run f).Says t
      (some outcome, f')) :
    (∀ n, outcome = .ok n → ∃ e front c e₁ rest done, f.engine? on = some e ∧ t = front ++ rest ∧
      (checkOut.run.run e).Says front (.ok c, e₁) ∧ (∀ y, hear y front = []) ∧
      Succeeds e₁ c statement rows done rest ∧ n = touched done ∧ (∀ y, c ≠ y → hear y t = []) ∧
      ∀ commands : Commands, commands.of statement = none →
        Session.of commands (hear c t) = ⟨done.map (Effect.deed statement), none⟩) ∧
    (∀ err, outcome = .error err →
      ((∀ y, hear y t = []) ∧ (t = [] ∨ ∃ e e₁, f.engine? on = some e ∧
          (checkOut.run.run e).Says t (.error (.failed err), e₁)) ∨
        ∃ e front c e₁ rest, f.engine? on = some e ∧ t = front ++ rest ∧
          (checkOut.run.run e).Says front (.ok c, e₁) ∧ (∀ y, hear y front = []) ∧
          Fails e₁ c statement rows rest err) ∧
      ∀ commands : Commands, commands.of statement = none → ∀ y, Session.of commands (hear y t) = {}) := by
  have ran := says_routed said
  rw [unscoped] at ran
  obtain ⟨result, ran, seen⟩ := says_return ran
  have waited : result ≠ .error .dropped := by
    rintro rfl
    cases seen
  rcases says_operate ran with ⟨rfl, -, err, rfl⟩ | ⟨e, e', here, ran, -⟩
  · cases seen
    refine ⟨nofun, fun _ _ => ⟨.inl ⟨fun _ => rfl, .inl rfl⟩, fun _ _ _ => rfl⟩⟩
  rcases says_executeMany waited ran with ⟨halt, e₁, rfl, out⟩ | ⟨front, c, e₁, rest, rfl, out, others, ended⟩
  · cases halt with
    | dropped => exact absurd rfl waited
    | failed err =>
      cases seen
      have silent := hear_checkOut out
      refine ⟨nofun, fun _ same => ?_⟩
      cases same
      refine ⟨.inl ⟨silent, .inr ⟨e, e₁, here, out⟩⟩, fun commands _ y => ?_⟩
      rw [silent]
      rfl
  · have silent := hear_checkOut out
    have heard : ∀ y, hear y (front ++ rest) = hear y rest := fun y => by rw [hear_append, silent, List.nil_append]
    rcases ended with ⟨done, succeeds, rfl⟩ | ⟨err, fails, rfl⟩
    · cases seen
      refine ⟨fun _ same => ?_, nofun⟩
      cases same
      refine ⟨e, front, c, e₁, rest, done, here, rfl, out, silent, succeeds, rfl, fun y other => ?_, ?_⟩
      · rw [heard, others y other]
      · exact fun commands plain => heard c ▸ succeeds.session plain
    · cases seen
      refine ⟨nofun, fun _ same => ?_⟩
      cases same
      refine ⟨.inr ⟨e, front, c, e₁, rest, here, rfl, out, silent, fails⟩, fun commands plain y => ?_⟩
      rw [heard]
      by_cases mine : c = y
      · exact mine ▸ fails.session plain
      · rw [others y mine]
        rfl

/-- a server that does what it is asked for some requests and then no more -/
def weary : Nat → (q : Request) → q.Answer × Nat
  | n + 1, q => ((obliging 0 q).1, n)
  | 0, q => ((q.unanswered ()).1, 0)

/-- a batch of three rows on a server that does one of them: the second is refused, `ROLLBACK` too, and the connection
is closed -/
theorem all_or_nothing_weary :
    let batch := (converse [] ((Statement.executeMany "INSERT" [[], [], []]).issue localDatabase [])).run
      ⟨[(localDatabase.id, opened)]⟩
    let t := Dialogue.transcript weary 4 batch
    (∃ f', batch.Says t (some (.error Fault.closed.toError), f')) ∧
      hear 0 t = [.begun, .prepared false, .ran "INSERT" [] false, .ran "INSERT" [] true, .ran "ROLLBACK" [] true,
        .shut] ∧
      ∀ commands : Commands, commands.of "INSERT" = none → ∀ y, Session.of commands (hear y t) = {} := by
  intro batch t
  have said := Dialogue.says_run weary 4 batch
  have failed : (Dialogue.run weary 4 batch).1.1 = some (.error Fault.closed.toError) := by
    decide +kernel
  generalize (Dialogue.run weary 4 batch).1 = done at said failed
  obtain ⟨_, f'⟩ := done
  cases failed
  exact ⟨⟨f', said⟩, by decide +kernel, ((all_or_nothing rfl said).2 _ rfl).2⟩

end Fleet

end Postgres

end Tabula
