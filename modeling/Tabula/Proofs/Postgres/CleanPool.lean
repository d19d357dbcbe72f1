import Tabula.Proofs.Postgres.Operations
/-!
# No connection of the pool is left inside a transaction

A run of an engine is a sequence of acts of its callers, each answered by the server as it likes and each dropped where
its caller likes.  As long as callers send no transaction commands of their own and none drops an operation on the pool
that has opened a transaction and not ended it, the connections of the pool are outside transactions, and a connection
inside one is held for a transaction that is not finished.  The second condition is needed: a batch that is dropped
between its `BEGIN` and its `COMMIT` leaves its connection to the pool as it is.
-/

namespace Tabula.Postgres

open Engine Dialogue

/-- what a caller has run on a connection -/
inductive Job where
  | execute (statement : String) (parameters : List Value)
  | query (statement : String) (parameters : List Value)
  | executeMany (statement : String) (rows : List (List Value))
  | script (text : String)

namespace Job

/-- what is sent to the server -/
def statement : Job → String
  | execute statement _ | query statement _ | executeMany statement _ => statement
  | script text => text

/-- runs a job on a connection of the pool -/
def pooled : Job → Operation Unit
  | execute statement parameters => do let _ ← Engine.execute statement parameters
  | query statement parameters => do let _ ← Engine.query statement parameters
  | executeMany statement rows => do let _ ← Engine.executeMany statement rows
  | script text => Engine.script text

/-- runs a job on a connection -/
def on (c : Nat) : Job → Operation Unit
  | execute statement parameters => do let _ ← Engine.executeOn c statement parameters
  | query statement parameters => do let _ ← Engine.queryOn c statement parameters
  | executeMany statement rows => do let _ ← Engine.executeManyOn c statement rows
  | script text => Engine.scriptOn c text

/-- what the requests for its statement keep, a job keeps -/
theorem keeps {σ : Type} {m : Monitor Request Request.Answer σ} {keep : σ → Prop} {leave : Prop} {c : Nat} {job : Job}
    (allowed : m.Allows keep leave c job.statement) : m.Keeps keep leave (job.on c) := by
  cases job with
  | execute statement parameters =>
    exact Monitor.keeps_bind (allowed.executeOn parameters) fun _ => Monitor.keeps_pure ()
  | query statement parameters =>
    exact Monitor.keeps_bind (allowed.queryOn parameters) fun _ => Monitor.keeps_pure ()
  | executeMany statement rows =>
    exact Monitor.keeps_bind (allowed.executeManyOn rows) fun _ => Monitor.keeps_pure ()
  | script text => exact allowed.scriptOn

end Job

/-- what callers do with an engine; transaction connections are known by their numbers -/
inductive Act where
  | start | close | createDatabase | deleteDatabase
  | pooled (job : Job)
  | begin
  | held (n : Nat) (job : Job)
  | commit (n : Nat) | rollback (n : Nat)
  | release (n : Nat) | discard (n : Nat) | forget (n : Nat)

namespace Act

def operation : Act → Operation Unit
  | start => Engine.start
  | close => Engine.close
  | createDatabase => Engine.createDatabase
  | deleteDatabase => Engine.deleteDatabase
  | pooled job => job.pooled
  | begin => do let _ ← Engine.begin
  | held n job => Engine.onHandle n fun c => job.on c
  | commit n => Engine.commit n
  | rollback n => Engine.rollback n
  | release n => Engine.release n
  | discard n => Engine.discard n
  | forget n => Engine.forget n

/-- the caller's statement -/
def statement? : Act → Option String
  | pooled job | held _ job => some job.statement
  | _ => none

/-- whether an act takes a connection of the pool for itself -/
def takesConnection : Act → Bool
  | pooled _ | begin => true
  | _ => false

end Act

/-- the states that an engine and its server can come to.  In careful runs nobody drops an operation that has taken a
connection of the pool and may leave it inside a transaction. -/
inductive Reachable (commands : Commands) (careful : Prop) (config : DatabaseConfig) : Engine → Watch → Prop where
  | new (drainTimeout : Nat) : Reachable commands careful config { config, drainTimeout } {}
  | act {e e' : Engine} {w : Watch} {t : List Reply} {result : Except Halt Unit} (a : Act)
      (before : Reachable commands careful config e w)
      (plain : ∀ statement, a.statement? = some statement → commands.of statement = none)
      (said : (a.operation.run.run e).Says t (result, e'))
      (admitted : (Setting.watch ⟨commands, careful ∧ a.takesConnection⟩).Admits w t) :
      Reachable commands careful config e' (t.foldl (Watch.after commands) w)

variable {s : Setting} {e : Engine} {w : Watch} {c n : Nat}

namespace Custody

theorem pooled (h : Custody [] e w) (patient : s.patient) (job : Job) (plain : s.Plain job.statement) :
    s.watch.Holds job.pooled.run (fun _ e' w' => Custody [] e' w') e w := by
  cases job with
  | execute statement parameters =>
    exact (h.quiet fun c => Setting.quiet_of_keeps fun w => (plain.allows w).executeOn parameters).unit
  | query statement parameters =>
    exact (h.quiet fun c => Setting.quiet_of_keeps fun w => (plain.allows w).queryOn parameters).unit
  | executeMany statement rows => exact (h.executeMany patient plain rows).unit
  | script text => exact h.quiet fun c => Setting.quiet_of_keeps fun w => (plain.allows w).scriptOn

theorem heldJob (h : Custody [] e w) (job : Job) (plain : s.Plain job.statement) :
    s.watch.Holds (Engine.onHandle n fun c => job.on c).run (fun _ e' w' => Custody [] e' w') e w :=
  h.quietOnHandle fun _ => Setting.quiet_of_keeps fun w => Job.keeps (plain.allows w)

/-- an act keeps custody -/
theorem act (h : Custody [] e w) (a : Act) (patient : a.takesConnection = true → s.patient)
    (plain : ∀ statement, a.statement? = some statement → s.Plain statement) :
    s.watch.Holds a.operation.run (fun _ e' w' => Custody [] e' w') e w := by
  cases a with
  | start => exact h.start
  | close => exact Monitor.holds_run_lift.mpr h.close
  | createDatabase => exact h.createDatabase
  | deleteDatabase => exact h.deleteDatabase
  | pooled job => exact h.pooled (patient rfl) job (plain _ rfl)
  | begin => exact (h.begin (patient rfl)).unit
  | held n job => exact h.heldJob job (plain _ rfl)
  | commit n => exact h.commit
  | rollback n => exact h.rollback
  | release n => exact Monitor.holds_run_lift.mpr (h.release.mono fun _ _ _ custody => custody.1)
  | discard n => exact Monitor.holds_run_lift.mpr h.discard
  | forget n => exact Monitor.holds_run_lift.mpr h.forget

theorem new (config : DatabaseConfig) (drainTimeout : Nat) : Custody [] { config, drainTimeout } {} where
  idleOnce := List.nodup_nil
  idleKnown _ hc := absurd hc List.not_mem_nil
  lentKnown _ hc := absurd hc List.not_mem_nil
  apart _ hc := absurd hc List.not_mem_nil
  numbered := List.nodup_nil
  numbers _ hc := absurd hc List.not_mem_nil
  held _ _ _ hc := absurd hc List.not_mem_nil
  heldOnce _ _ _ _ _ hc := absurd hc List.not_mem_nil
  ownOnce := List.nodup_nil
  ownLent _ hc := absurd hc List.not_mem_nil
  accounted _ hc := absurd hc List.not_mem_nil

end Custody

namespace Reachable

variable {commands : Commands} {config : DatabaseConfig}

/-- a careful run keeps custody -/
theorem custody (h : Reachable commands True config e w) : Custody [] e w := by
  induction h with
  | new drainTimeout => exact .new config drainTimeout
  | act a before plain said admitted ih =>
    have kept := ih.act (s := ⟨commands, True ∧ a.takesConnection⟩) a (fun takes => ⟨trivial, takes⟩) plain
    exact kept.afterwards said admitted

/-- a run goes on with what an answerer makes of an act -/
theorem run {σ : Type} {careful : Prop} (answer : σ → (q : Request) → q.Answer × σ) (start : σ)
    (before : Reachable commands careful config e w) (a : Act)
    (plain : ∀ statement, a.statement? = some statement → commands.of statement = none)
    (admitted : (Setting.watch ⟨commands, careful ∧ a.takesConnection⟩).Admits w
      (Dialogue.transcript answer start (a.operation.run.run e))) :
    Reachable commands careful config (Dialogue.run answer start (a.operation.run.run e)).1.2
      ((Dialogue.transcript answer start (a.operation.run.run e)).foldl (Watch.after commands) w) := by
  have said := Dialogue.says_run answer start (a.operation.run.run e)
  generalize (Dialogue.run answer start (a.operation.run.run e)).1 = done at said
  exact .act a before plain said admitted

/-- **No connection of the pool is left inside a transaction, in careful runs.**  Idle connections are outside, and a
connection inside a transaction is held for one that is not finished. -/
theorem idle_outside (h : Reachable commands True config e w) :
    (∀ c ∈ e.idle, c ∉ w.inside) ∧ ∀ c ∈ w.inside, ∃ n, (n, ⟨some c, false⟩) ∈ e.handles := by
  refine ⟨fun c idle => h.custody.outside_of_idle idle, fun c inside => ?_⟩
  rcases h.custody.accounted c inside with own | held
  · exact absurd own List.not_mem_nil
  · exact held

/-- the three commands that engines send -/
def threeCommands : Commands where
  of text :=
    if text = "BEGIN" then some .opens
    else if text = "COMMIT" then some .commits
    else if text = "ROLLBACK" then some .rollsBack
    else none
  begin_ := rfl
  commit := rfl
  rollback := rfl

/-- a database on this machine -/
def localhost : DatabaseConfig where
  name := "default"
  backend := .postgres
  host := DatabaseConfig.defaultHost
  port := DatabaseConfig.defaultPort
  user := none
  password := none
  database := "app"

/-- a server that does what it is asked, and callers who never wait for a statement to be prepared -/
def hasty : Unit → (q : Request) → q.Answer × Unit
  | _, .connect .. => (.arrived (.ok 0), ())
  | _, .isAlive _ => (true, ())
  | _, .prepare .. => (.dropped, ())
  | _, .execute .. => (.arrived (.ok 1), ())
  | _, .fetch .. => (.arrived (.ok []), ())
  | _, .wait _ | _, .batch .. => (.arrived (.ok ()), ())
  | _, .cancel _ | _, .shut _ => ((), ())

theorem idle_outside_begun : ∃ e w, Reachable threeCommands True localhost e w ∧ w.inside = [0] ∧
    (∀ c ∈ e.idle, c ∉ w.inside) ∧ ∀ c ∈ w.inside, ∃ n, (n, ⟨some c, false⟩) ∈ e.handles := by
  have fresh : Reachable threeCommands True localhost { config := localhost, drainTimeout := 10 } {} := .new 10
  have opened := fresh.run hasty () .start (fun _ h => nomatch h)
    ⟨⟨fun _ _ => List.not_mem_nil, fun _ _ h => nomatch h⟩, trivial⟩
  have begun := opened.run hasty () .begin (fun _ h => nomatch h)
    ⟨⟨trivial, fun _ _ h => nomatch h⟩, ⟨trivial, fun _ _ h => nomatch h⟩, trivial⟩
  exact ⟨_, _, begun, rfl, idle_outside begun⟩

/-- a batch that is dropped when its transaction is open leaves its connection to the pool inside -/
theorem idle_inside_dropped : ∃ e w, Reachable threeCommands False localhost e w ∧ 0 ∈ e.idle ∧ 0 ∈ w.inside := by
  have fresh : Reachable threeCommands False localhost { config := localhost, drainTimeout := 10 } {} := .new 10
  have opened := fresh.run hasty () .start (fun _ h => nomatch h)
    ⟨⟨fun _ _ => List.not_mem_nil, fun h => h.1.elim⟩, trivial⟩
  have dropped := opened.run hasty () (.pooled (.executeMany "INSERT" [[]]))
    (fun statement h => by
      obtain rfl : "INSERT" = statement := Option.some.inj h
      rfl)
    ⟨⟨trivial, fun h => h.1.elim⟩, ⟨trivial, fun h => h.1.elim⟩, ⟨trivial, fun h => h.1.elim⟩, trivial⟩
  exact ⟨_, _, dropped, List.mem_cons_self, List.mem_cons_self⟩

end Reachable

end Tabula.Postgres
