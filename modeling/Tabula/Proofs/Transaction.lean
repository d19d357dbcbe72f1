import Tabula.Database.Scripted
import Tabula.Proofs.Keyed
import Tabula.Proofs.Transcript
import Tabula.Transaction
/-!
# Transaction scopes are well bracketed

What a scope may ask of its databases, however they answer.  `Transaction.Body` is the syntax of what runs inside a
scope: statements on any databases and further scopes, each going on with the outcome of the one before.  A scope
refuses a name that is active, gives up if `BEGIN` fails, and otherwise ends its transaction after its body and gives
the connection back; between the two, every statement on its name runs on that connection.
-/

namespace Tabula

/-! ## Events -/

/-- a call with its answer -/
abbrev Event := Dialogue.Exchange Call Call.Answer

/-- the name of the database that a call is made on -/
def Call.name : Call → String
  | execute on .. | query on .. | executeMany on .. | script on .. | close on | begin on => on.name
  | commit on | rollback on | release on | discard on => on.database.name

/-- the connection that a statement is told to run on, if it is told one; other calls are no statements -/
def Call.route? : Call → Option (Option Connection)
  | execute _ pinned .. | query _ pinned .. | executeMany _ pinned .. | script _ pinned _ => some pinned
  | _ => none

namespace Event

/-- whether `BEGIN` was answered with a connection of the database it was asked for -/
def Honest : Event → Prop
  | ⟨.begin db, answer⟩ => ∀ c, answer = Except.ok c → c.database = db
  | _ => True

/-- the transactions that are open after an event -/
def after (active : Active) : Event → Active
  | ⟨.begin db, answer⟩ =>
    match (answer : Outcome Connection) with
    | .ok c => Keyed.insert db.name c active
    | .error _ => active
  | ⟨.release c, _⟩ | ⟨.discard c, _⟩ => Keyed.erase c.database.name active
  | _ => active

theorem after_release (active : Active) (c : Connection) (answer : Unit) :
    after active ⟨.release c, answer⟩ = Keyed.erase c.database.name active := rfl

/-- whether a statement, if the event is one, runs on the connection of the transaction open on its name, and outside
transactions if there is none -/
def Routed (active : Active) (e : Event) : Prop :=
  ∀ pinned, e.question.route? = some pinned → pinned = Keyed.find? e.question.name active

/-- whether an event is a statement on a connection -/
def RunsOn (c : Connection) (e : Event) : Prop := e.question.route? = some (some c)

end Event

/-- scripted databases give connections of the database asked -/
theorem Stage.answer_honest (s : Stage) (call : Call) : Event.Honest ⟨call, (s.answer call).1⟩ := by
  cases call with
  | begin db =>
    intro c answered
    simp only [Stage.answer] at answered
    split at answered
    · cases answered
      rfl
    · cases answered
  | _ => trivial

namespace Transaction

/-- the transactions that are open after some events -/
def replay (active : Active) (events : List Event) : Active := events.foldl Event.after active

/-- whether every event is routed by the transactions that are open when it happens -/
def RoutedAll : Active → List Event → Prop
  | _, [] => True
  | active, e :: rest => e.Routed active ∧ RoutedAll (e.after active) rest

/-- the calls on a name, in order, that begin or end a transaction or give its connection up -/
def lifecycle (name : String) (events : List Event) : List Call :=
  (events.map fun e => e.question).filter fun call => call.name = name && call.route?.isNone

/-! ## Bodies -/

/-- what runs inside a scope: statements and further scopes, each going on with the outcome of the one before -/
inductive Body : Type → Type 1 where
  | finish {α : Type} (outcome : Outcome α) : Body α
  | execute {α : Type} (on : Database) (statement : String) (parameters : List Value)
      (next : Outcome Nat → Body α) : Body α
  | query {α : Type} (on : Database) (statement : String) (parameters : List Value)
      (next : Outcome (List Row) → Body α) : Body α
  | scope {α β : Type} (on : Database) (inner : Body β) (next : Outcome β → Body α) : Body α

/-- runs a body with some transactions open -/
def Body.talk {α : Type} : Body α → Active → Talk (Ending α)
  | finish outcome, _ => return .finished outcome
  | execute on statement parameters next, active => do
    let outcome ← on.execute active statement parameters
    (next outcome).talk active
  | query on statement parameters next, active => do
    let outcome ← on.query active statement parameters
    (next outcome).talk active
  | scope on inner next, active => do
    match ← inTransaction id on active inner.talk with
    | .finished outcome => (next outcome).talk active
    | .dropped => return .dropped

variable {α : Type} {db : Database} {active : Active} {events : List Event}

/-! ## What a scope says -/

/-- a scope is refused, fails to begin, or is a body between `BEGIN` and the end of the transaction -/
theorem says_inTransaction {body : Active → Talk (Ending α)} {ending : Ending α}
    (said : (inTransaction id db active body).Says events ending) :
    (isActive active db.name = true ∧ events = [] ∧ ending = .finished (.error (nested db.name))) ∨
    (isActive active db.name = false ∧ ∃ e, events = [⟨.begin db, .error e⟩] ∧ ending = .finished (.error e)) ∨
    (isActive active db.name = false ∧ ∃ (c : Connection) (inner tail : List Event) (done : Ending α),
      events = ⟨.begin db, .ok c⟩ :: (inner ++ tail) ∧
      (body (Keyed.insert db.name c active)).Says inner done ∧ (conclude c done).Says tail ending) := by
  unfold inTransaction at said
  split at said
  · next inside =>
    obtain ⟨nothing, result⟩ := Dialogue.says_pure.mp said
    exact .inl ⟨inside, nothing, result⟩
  · next outside =>
    have outside : isActive active db.name = false := by simpa using outside
    obtain ⟨begun, answer, rest, rfl, asked, said⟩ := Dialogue.says_bind.mp said
    have begun_eq : begun = [⟨.begin db, answer⟩] := Dialogue.says_question.mp asked
    cases answer with
    | error e =>
      obtain ⟨rfl, result⟩ := Dialogue.says_pure.mp said
      exact .inr (.inl ⟨outside, e, by rw [begun_eq, List.append_nil], result⟩)
    | ok c =>
      obtain ⟨inner, done, tail, rfl, ran, ended⟩ := Dialogue.says_bind.mp said
      exact .inr (.inr ⟨outside, c, inner, tail, done, by rw [begun_eq]; rfl, ran, ended⟩)

/-- one question that ends a transaction, then its connection is given back -/
theorem says_last {c : Connection} {last : Call} {f : last.Answer → Ending α} {ending : Ending α}
    (said : Dialogue.Says (do
      let reply ← Dialogue.question last
      c.release
      return f reply) events ending) :
    ∃ reply, events = [⟨last, reply⟩, ⟨.release c, ()⟩] ∧ ending = f reply := by
  obtain ⟨ended, reply, rest, rfl, asked, said⟩ := Dialogue.says_bind.mp said
  obtain ⟨released, _, rest, rfl, gave, said⟩ := Dialogue.says_bind.mp said
  obtain ⟨rfl, result⟩ := Dialogue.says_pure.mp said
  have ended_eq : ended = [⟨last, reply⟩] := Dialogue.says_question.mp asked
  have released_eq : released = [⟨.release c, ()⟩] := Dialogue.says_question.mp gave
  exact ⟨reply, by rw [ended_eq, released_eq]; rfl, result⟩

/-- a body that succeeded is committed -/
theorem says_conclude_ok {c : Connection} {a : α} {ending : Ending α}
    (said : (conclude c (.finished (.ok a))).Says events ending) :
    ∃ reply : Outcome Unit, events = [⟨.commit c, reply⟩, ⟨.release c, ()⟩] ∧
      ending = .finished (reply.map fun _ => a) :=
  says_last said

/-- a body that failed is rolled back and keeps its error -/
theorem says_conclude_error {c : Connection} {e : Error} {ending : Ending α}
    (said : (conclude c (.finished (.error e))).Says events ending) :
    ∃ reply : Outcome Unit, events = [⟨.rollback c, reply⟩, ⟨.release c, ()⟩] ∧
      ending = .finished (.error e) :=
  says_last said

/-! ## What the events of a body have in common -/

theorem replay_append {front back : List Event} :
    replay active (front ++ back) = replay (replay active front) back := List.foldl_append

theorem routedAll_append {front back : List Event} :
    RoutedAll active (front ++ back) ↔ RoutedAll active front ∧ RoutedAll (replay active front) back := by
  induction front generalizing active with
  | nil => exact ⟨fun h => ⟨trivial, h⟩, And.right⟩
  | cons e front ih =>
    rw [List.cons_append, RoutedAll, RoutedAll, ih, and_assoc]
    rfl

/-- events that leave the transactions as they found them: every statement runs where it belongs, and on the names that
were active before there is nothing but statements -/
structure Balanced (active : Active) (events : List Event) : Prop where
  routed : RoutedAll active events
  closed : replay active events = active
  within : ∀ e ∈ events, ∀ c, Keyed.find? e.question.name active = some c → e.RunsOn c

theorem Balanced.nil : Balanced active [] := ⟨trivial, rfl, fun _ he => absurd he List.not_mem_nil⟩

theorem Balanced.append {front back : List Event} (hf : Balanced active front) (hb : Balanced active back) :
    Balanced active (front ++ back) := by
  refine ⟨routedAll_append.mpr ⟨hf.routed, ?_⟩, ?_, fun e he => ?_⟩
  · rw [hf.closed]
    exact hb.routed
  · rw [replay_append, hf.closed, hb.closed]
  · rcases List.mem_append.mp he with he | he
    · exact hf.within e he
    · exact hb.within e he

/-- a statement on the connection of the transaction on its name -/
theorem Balanced.statement {e : Event} (route : e.question.route? = some (Keyed.find? e.question.name active))
    (same : e.after active = active) : Balanced active [e] := by
  refine ⟨⟨fun pinned told => ?_, trivial⟩, same, fun x hx c open_ => ?_⟩
  · rw [route] at told
    exact (Option.some.inj told).symm
  · obtain rfl := List.mem_singleton.mp hx
    rw [Event.RunsOn, route, open_]

theorem find?_of_not_active {name : String} (outside : isActive active name = false) :
    Keyed.find? name active = none := by
  rw [isActive, Keyed.contains_eq_isSome] at outside
  exact Option.isNone_iff_eq_none.mp (Option.isSome_eq_false_iff.mp outside)

/-- a transaction on a new name around balanced events -/
theorem Balanced.bracket {c : Connection} {inner : List Event} {last : Event} (own : c.database = db)
    (outside : isActive active db.name = false) (hi : Balanced (Keyed.insert db.name c active) inner)
    (named : last.question.name = db.name) (command : last.question.route? = none)
    (same : last.after (Keyed.insert db.name c active) = Keyed.insert db.name c active) :
    Balanced active (⟨.begin db, Except.ok c⟩ :: (inner ++ [last, ⟨.release c, ()⟩])) := by
  have absent : Keyed.find? db.name active = none := find?_of_not_active outside
  have released : Event.after (Keyed.insert db.name c active) ⟨.release c, ()⟩ = active := by
    rw [Event.after_release, own]
    exact Keyed.erase_insert outside
  refine ⟨⟨fun _ told => (nomatch told), routedAll_append.mpr ⟨hi.routed, ?_⟩⟩, ?_, fun e he k open_ => ?_⟩
  · exact ⟨fun _ told => (nomatch command.symm.trans told), fun _ told => (nomatch told), trivial⟩
  · calc replay active (⟨.begin db, Except.ok c⟩ :: (inner ++ [last, ⟨.release c, ()⟩]))
      _ = replay (Keyed.insert db.name c active) (inner ++ [last, ⟨.release c, ()⟩]) := rfl
      _ = replay (Keyed.insert db.name c active) [last, ⟨.release c, ()⟩] := by rw [replay_append, hi.closed]
      _ = active := by rw [replay, List.foldl_cons, same, List.foldl_cons, released, List.foldl_nil]
  · have elsewhere : e.question.name ≠ db.name := by
      intro here
      rw [here, absent] at open_
      cases open_
    have inside : e ∈ inner := by
      simp only [List.mem_cons, List.mem_append, List.not_mem_nil, or_false] at he
      rcases he with rfl | he | rfl | rfl
      · exact absurd rfl elsewhere
      · exact he
      · exact absurd named elsewhere
      · exact absurd (congrArg Database.name own) elsewhere
    exact hi.within e inside k (by rw [Keyed.find?_insert_of_ne elsewhere, open_])

/-! ## The course of a scope -/

/-- how a scope can go, with the calls it makes and their answers, and how it ends.  After `BEGIN` come the events of
what runs inside, on the scope's name nothing but statements on its connection, and then the end of the transaction. -/
inductive Course (db : Database) (active : Active) (run : Active → Talk (Ending α)) :
    List Event → Outcome α → Prop where
  | refused (inside : isActive active db.name = true) : Course db active run [] (.error (nested db.name))
  | unbegun (e : Error) (outside : isActive active db.name = false) :
      Course db active run [⟨.begin db, Except.error e⟩] (.error e)
  | committed {c : Connection} {inner : List Event} (a : α) (reply : Outcome Unit)
      (outside : isActive active db.name = false) (own : c.database = db)
      (ran : (run (Keyed.insert db.name c active)).Says inner (.finished (.ok a)))
      (within : ∀ e ∈ inner, e.question.name = db.name → e.RunsOn c) :
      Course db active run (⟨.begin db, Except.ok c⟩ :: (inner ++ [⟨.commit c, reply⟩, ⟨.release c, ()⟩]))
        (reply.map fun _ => a)
  | rolledBack {c : Connection} {inner : List Event} (e : Error) (reply : Outcome Unit)
      (outside : isActive active db.name = false) (own : c.database = db)
      (ran : (run (Keyed.insert db.name c active)).Says inner (.finished (.error e)))
      (within : ∀ e ∈ inner, e.question.name = db.name → e.RunsOn c) :
      Course db active run (⟨.begin db, Except.ok c⟩ :: (inner ++ [⟨.rollback c, reply⟩, ⟨.release c, ()⟩]))
        (.error e)

/-- whether what runs inside a scope comes to an end and leaves balanced events, unless a database lies -/
def Sound (run : Active → Talk (Ending α)) : Prop :=
  ∀ (active : Active) (events : List Event) (ending : Ending α), (run active).Says events ending →
    (∀ e ∈ events, e.Honest) → Balanced active events ∧ ∃ outcome, ending = .finished outcome

variable {run : Active → Talk (Ending α)} {ending : Ending α} {outcome : Outcome α}

omit db active in
theorem honest_inner {first : Event} {inner tail : List Event} (honest : ∀ e ∈ first :: (inner ++ tail), e.Honest) :
    ∀ e ∈ inner, e.Honest := by
  intro e he
  exact honest e (List.mem_cons_of_mem _ (List.mem_append_left _ he))

/-- a scope takes one of the courses -/
theorem course_of_says (sound : Sound run) (said : (inTransaction id db active run).Says events ending)
    (honest : ∀ e ∈ events, e.Honest) :
    ∃ outcome, ending = .finished outcome ∧ Course db active run events outcome := by
  rcases says_inTransaction said with ⟨inside, rfl, rfl⟩ | ⟨outside, e, rfl, rfl⟩ | ⟨outside, c, inner, tail, done, rfl,
    ran, ended⟩
  · exact ⟨_, rfl, .refused inside⟩
  · exact ⟨_, rfl, .unbegun e outside⟩
  · have own : c.database = db := honest _ List.mem_cons_self c rfl
    obtain ⟨balanced, outcome, rfl⟩ := sound _ _ _ ran (honest_inner honest)
    have within : ∀ e ∈ inner, e.question.name = db.name → e.RunsOn c := fun e he here =>
      balanced.within e he c (by rw [here, Keyed.find?_insert_self])
    cases outcome with
    | ok a =>
      obtain ⟨reply, rfl, rfl⟩ := says_conclude_ok ended
      exact ⟨_, rfl, .committed a reply outside own ran within⟩
    | error e =>
      obtain ⟨reply, rfl, rfl⟩ := says_conclude_error ended
      exact ⟨_, rfl, .rolledBack e reply outside own ran within⟩

/-- every course leaves balanced events -/
theorem Course.balanced (sound : Sound run) (course : Course db active run events outcome)
    (honest : ∀ e ∈ events, e.Honest) : Balanced active events := by
  cases course with
  | refused => exact .nil
  | unbegun e outside =>
    refine ⟨⟨fun _ told => (nomatch told), trivial⟩, rfl, fun x hx c open_ => ?_⟩
    obtain rfl := List.mem_singleton.mp hx
    exact nomatch (find?_of_not_active outside).symm.trans open_
  | @committed c inner a reply outside own ran within =>
    exact .bracket own outside (sound _ _ _ ran (honest_inner honest)).1 (congrArg Database.name own) rfl rfl
  | @rolledBack c inner e reply outside own ran within =>
    exact .bracket own outside (sound _ _ _ ran (honest_inner honest)).1 (congrArg Database.name own) rfl rfl

/-- a statement where it belongs, and what goes on with its answer -/
theorem Sound.statement {call : Active → Call} {next : (active : Active) → (call active).Answer → Talk (Ending α)}
    (route : ∀ active, (call active).route? = some (Keyed.find? (call active).name active))
    (same : ∀ active answer, Event.after active ⟨call active, answer⟩ = active)
    (goes_on : ∀ active answer events ending, (next active answer).Says events ending →
      (∀ e ∈ events, Event.Honest e) → Balanced active events ∧ ∃ outcome, ending = .finished outcome) :
    Sound fun active => .ask (call active) (next active) := by
  intro active events ending said honest
  obtain ⟨answer, rest, rfl, went_on⟩ := Dialogue.says_ask.mp said
  obtain ⟨balanced, ended⟩ := goes_on active answer rest ending went_on fun e he => honest e (List.mem_cons_of_mem _ he)
  exact ⟨.append (.statement (route active) (same active answer)) balanced, ended⟩

/-- bodies come to an end and leave balanced events -/
theorem Body.sound (body : Body α) : Sound body.talk := by
  induction body with
  | finish outcome =>
    intro active events ending said _
    obtain ⟨rfl, rfl⟩ := Dialogue.says_pure.mp said
    exact ⟨.nil, outcome, rfl⟩
  | execute on statement parameters next ih =>
    exact .statement (fun _ => rfl) (fun _ _ => rfl) fun active answer => ih answer active
  | query on statement parameters next ih =>
    exact .statement (fun _ => rfl) (fun _ _ => rfl) fun active answer => ih answer active
  | scope on inner next inner_sound ih =>
    intro active events ending said honest
    rw [Body.talk] at said
    obtain ⟨front, done, back, rfl, entered, went_on⟩ := Dialogue.says_bind.mp said
    have told : ∀ e ∈ front, Event.Honest e := fun e he => honest e (List.mem_append_left _ he)
    obtain ⟨outcome, rfl, course⟩ := course_of_says inner_sound entered told
    obtain ⟨rest, ended⟩ := ih outcome active back ending went_on fun e he => honest e (List.mem_append_right _ he)
    exact ⟨.append (course.balanced inner_sound told) rest, ended⟩

/-! ## Scopes are well bracketed -/

theorem lifecycle_append {name : String} {front back : List Event} :
    lifecycle name (front ++ back) = lifecycle name front ++ lifecycle name back := by
  simp [lifecycle]

/-- a part with nothing but statements on a name does not touch its transactions -/
theorem lifecycle_eq_nil {name : String} {c : Connection}
    (within : ∀ e ∈ events, e.question.name = name → e.RunsOn c) : lifecycle name events = [] := by
  refine List.filter_eq_nil_iff.mpr fun call hc => ?_
  obtain ⟨e, he, rfl⟩ := List.mem_map.mp hc
  by_cases here : e.question.name = name
  · have routed : e.question.route? = some (some c) := within e he here
    simp [routed]
  · simp [here]

/-- the calls of a transaction around a part that does not touch it -/
theorem lifecycle_around {name : String} {inner : List Event} {first last released : Event}
    (quiet : lifecycle name inner = [])
    (own : ∀ e ∈ [first, last, released], e.question.name = name ∧ e.question.route? = none) :
    lifecycle name (first :: (inner ++ [last, released])) = [first.question, last.question, released.question] := by
  rw [← List.singleton_append, lifecycle_append, lifecycle_append, quiet]
  simp only [List.forall_mem_cons] at own
  simp [lifecycle, own]

/-- the ways to begin and end at most one transaction on a database -/
inductive Bracket (db : Database) : List Call → Prop where
  | nothing : Bracket db []
  | unbegun : Bracket db [.begin db]
  | committed (c : Connection) (own : c.database = db) : Bracket db [.begin db, .commit c, .release c]
  | rolledBack (c : Connection) (own : c.database = db) : Bracket db [.begin db, .rollback c, .release c]

theorem Course.bracket (course : Course db active run events outcome) : Bracket db (lifecycle db.name events) := by
  cases course with
  | refused => exact .nothing
  | unbegun e =>
    have alone : lifecycle db.name [⟨.begin db, Except.error e⟩] = [.begin db] := by
      simp [lifecycle, Call.name, Call.route?]
    rw [alone]
    exact .unbegun
  | @committed c inner a reply outside own ran within =>
    rw [lifecycle_around (lifecycle_eq_nil within) (by simp [Call.name, Call.route?, own])]
    exact .committed c own
  | @rolledBack c inner e reply outside own ran within =>
    rw [lifecycle_around (lifecycle_eq_nil within) (by simp [Call.name, Call.route?, own])]
    exact .rolledBack c own

/-- **Transaction scopes are well bracketed.**  Whatever a scope and the databases say, as long as `BEGIN` on a database
gives connections of that database, the scope comes to an end on one of its courses, every statement inside runs on the
connection of the transaction that is open on its name, or outside transactions if there is none, and in the end the
transactions that were open before are open again. -/
theorem inTransaction_bracketed {body : Body α} (said : (inTransaction id db active body.talk).Says events ending)
    (honest : ∀ e ∈ events, e.Honest) :
    (∃ outcome, ending = .finished outcome ∧ Course db active body.talk events outcome) ∧
      Bracket db (lifecycle db.name events) ∧ RoutedAll active events ∧ replay active events = active := by
  obtain ⟨outcome, rfl, course⟩ := course_of_says body.sound said honest
  have balanced : Balanced active events := course.balanced body.sound honest
  exact ⟨⟨outcome, rfl, course⟩, course.bracket, balanced.routed, balanced.closed⟩

/-- an order and its audit on a database of its own, which reads the order, tries to begin there again and fails to
commit -/
theorem inTransaction_bracketed_audited :
    let orders : Database := ⟨"orders", 0⟩
    let audit : Database := ⟨"audit", 1⟩
    let stage : Stage := { scripts := [(0, {}), (1, { errors := [("COMMIT", ⟨.integrity, "late"⟩)] })] }
    let body : Body Unit :=
      .execute orders "INSERT" [] fun _ =>
        .scope audit
          (.query orders "SELECT" [] fun _ => .scope orders (.finish (.ok ())) fun _ => .finish (.ok ()))
          Body.finish
    let scope := inTransaction id orders [] body.talk
    let events := Dialogue.transcript Stage.answer stage scope
    let done := Dialogue.run Stage.answer stage scope
    ((∃ outcome, done.1 = .finished outcome ∧ Course orders [] body.talk events outcome) ∧
      Bracket orders (lifecycle "orders" events) ∧ RoutedAll [] events ∧ replay [] events = []) ∧
    done.2.log.reverse.map (fun r => (r.database, r.statement)) =
      [("orders", "BEGIN"), ("orders", "[tx] INSERT"), ("audit", "BEGIN"), ("orders", "[tx] SELECT"),
        ("audit", "COMMIT"), ("audit", "RELEASE"), ("orders", "ROLLBACK"), ("orders", "RELEASE")] :=
  ⟨inTransaction_bracketed (Dialogue.says_run _ _ _) (Dialogue.forall_mem_transcript Stage.answer_honest _ _),
    by decide +kernel⟩

end Transaction

end Tabula
