import Tabula.Proofs.Postgres.CleanPool
/-!
# An engine in order

Callers may send what they like, transaction commands among it, and drop what they have begun wherever they like.  The
transactions of the server are then beyond what an engine can know, but its connections are not: each is idle, lent to
one operation or held for one transaction.  `Engine.Reached.inOrder` says so of every state that an engine comes to.

What the server's transactions are is left out of the account here, so that the lemmas on custody apply with no
connection inside of one.
-/

namespace Tabula.Postgres

open Engine Dialogue

variable {own known : List Nat} {e : Engine} {w : Watch} {c n : Nat} {α : Type}

/-- keeps the numbers of connections, which are given once -/
def census : Monitor Request Request.Answer (List Nat) where
  after known x := (given? x).toList ++ known
  admits known x := ∀ c, given? x = some c → c ∉ known

theorem Watch.known_after (commands : Commands) (w : Watch) (x : Reply) :
    (w.after commands x).known = (given? x).toList ++ w.known := by
  obtain ⟨r, answer⟩ := x
  cases r with
  | connect config database =>
    change Awaited Nat at answer
    rcases answer with (f | c) | _ <;> rfl
  | execute | fetch | batch => exact ran_known ..
  | _ => rfl

/-- callers of whom nothing is asked -/
def anyCaller : Setting := ⟨Reachable.threeCommands, False⟩

/-- what holds of the numbers in a watch holds in the census -/
theorem census_holds {x : Postgres.Task α} {p : α → Engine → List Nat → Prop} :
    census.Holds x p e w.known ↔ anyCaller.watch.Holds x (fun a e w => p a e w.known) e w := by
  refine Monitor.ensures_map (m := anyCaller.watch) (f := Watch.known) ?_ ?_
  · exact fun w x => Watch.known_after _ w x
  · intro w x
    rw [← show w.Fresh x ↔ census.admits w.known x from Watch.fresh_iff]
    exact and_iff_left False.elim

/-- statements open no connections -/
theorem census_allows (statement : String) : census.Allows (· = known) True c statement := by
  rintro r _ answer spoken rfl _
  cases r <;> cases spoken <;> exact ⟨rfl, fun _ => trivial⟩

/-- the connections of an engine are accounted for while operations hold those in `own` -/
def InOrder (own : List Nat) (e : Engine) (known : List Nat) : Prop := Custody own e { known }

theorem Custody.inOrder (h : Custody own e w) : InOrder own e w.known :=
  h.onward (fun _ mem => mem) fun _ mem => absurd mem List.not_mem_nil

namespace InOrder

/-- what leaves connections in custody leaves them in order -/
theorem along {x : Postgres.Task α}
    (h : anyCaller.watch.Holds x (fun _ e' w' => Custody own e' w') e { known }) :
    census.Holds x (fun _ e' known' => InOrder own e' known') e known :=
  (census_holds (w := { known })).mpr (h.mono fun _ _ _ custody => custody.inOrder)

theorem withPrepared (h : InOrder own e known) (prepared : List ((Nat × String) × Prepared)) :
    InOrder own { e with prepared } known := Custody.withPrepared h prepared

theorem checkOut (h : InOrder own e known) :
    census.Holds Engine.checkOut.run (fun taken e' known' =>
      match taken with
      | .ok c => InOrder (c :: own) e' known'
      | .error _ => InOrder own e' known') e known := by
  refine (census_holds (w := { known })).mpr ((Custody.checkOut h).mono ?_)
  rintro (halt | c) e' w' ⟨_, custody⟩
  · exact custody.inOrder
  · exact custody.1.inOrder

/-- an operation that is done with its connection: it is still its own, or closed -/
def Done (own : List Nat) (c : Nat) (e : Engine) (known : List Nat) : Prop :=
  InOrder (c :: own) e known ∨ InOrder own e known ∧ c ∉ e.lent

theorem giveBack (h : Done own c e known) :
    census.Holds (Engine.giveBack c) (fun _ e' known' => InOrder own e' known') e known := by
  refine along ((Custody.giveBack ?_).mono fun _ _ _ back => back.1)
  exact h.imp (fun mine => ⟨mine, List.not_mem_nil⟩) id

/-- statements leave everything in order -/
theorem keep {op : Operation α} (h : InOrder own e known) (keeps : census.Keeps (· = known) True op) :
    census.Holds op.run (fun _ e' known' => InOrder own e' known') e known := by
  refine (keeps e known rfl).mono ?_
  rintro _ _ _ ⟨⟨prepared, rfl⟩, rfl, _⟩
  exact h.withPrepared prepared

/-! ## Operations on the pool -/

theorem onConnection {op : Nat → Operation α} (h : InOrder own e known)
    (fit : ∀ c e known, InOrder (c :: own) e known →
      census.Holds (op c).run (fun _ e' known' => Done own c e' known') e known) :
    census.Holds (Engine.onConnection op).run (fun _ e' known' => InOrder own e' known') e known := by
  rw [Engine.onConnection, Monitor.holds_run_bind]
  refine h.checkOut.mono ?_
  rintro (halt | c) e₁ known₁ order
  · exact order
  · simp only
    rw [Monitor.holds_run_bind, Monitor.holds_attempt]
    refine (fit c e₁ known₁ order).mono fun result e₂ known₂ done => ?_
    simp only
    rw [Monitor.holds_run_lift_bind]
    refine (giveBack done).mono fun _ e₃ known₃ order => ?_
    rw [Monitor.holds_ending]
    exact order

theorem pooled {op : Nat → Operation α} (h : InOrder own e known)
    (keeps : ∀ c known, census.Keeps (· = known) True (op c)) :
    census.Holds (Engine.onConnection op).run (fun _ e' known' => InOrder own e' known') e known := by
  apply h.onConnection
  intro c e known mine
  exact (mine.keep (keeps c known)).mono fun _ _ _ order => .inl order

theorem concludeBatch (h : InOrder (c :: own) e known) (result : Except Halt Nat) :
    census.Holds (Engine.concludeBatch c result).run (fun _ e' known' => Done own c e' known') e known := by
  rcases result with (err | _) | total
  · rw [Engine.concludeBatch, Monitor.holds_run_bind, Monitor.holds_attempt]
    refine (h.keep (census_allows "ROLLBACK").scriptOn).mono ?_
    rintro ((err' | _) | _) e' known' mine
    · simp only
      rw [Monitor.holds_run_lift_bind]
      refine (census_holds (w := { known := known' })).mpr ((Custody.shutOwn mine).mono ?_)
      rintro _ e'' w'' ⟨custody, gone, _⟩
      exact .inr ⟨custody.inOrder, gone⟩
    · exact .inl mine
    · exact .inl mine
  · exact .inl h
  · rw [Engine.concludeBatch, Monitor.holds_run_bind]
    refine (h.keep (census_allows "COMMIT").scriptOn).mono ?_
    rintro (halt | _) e' known' mine
    · exact .inl mine
    · exact .inl mine

theorem executeMany (h : InOrder own e known) (statement : String) (rows : List (List Value)) :
    census.Holds (Engine.executeMany statement rows).run (fun _ e' known' => InOrder own e' known') e known := by
  apply h.onConnection
  intro c e known mine
  rw [Monitor.holds_run_bind]
  refine (mine.keep (census_allows "BEGIN").scriptOn).mono ?_
  rintro (halt | _) e₁ known₁ mine
  · exact .inl mine
  · simp only
    rw [Monitor.holds_run_bind, Monitor.holds_attempt]
    refine (mine.keep ((census_allows statement).executeManyOn rows)).mono fun result e₂ known₂ mine => ?_
    exact mine.concludeBatch result

theorem pooledJob (h : InOrder own e known) (job : Job) :
    census.Holds job.pooled.run (fun _ e' known' => InOrder own e' known') e known := by
  cases job with
  | execute statement parameters => exact (h.pooled fun _ _ => (census_allows statement).executeOn parameters).unit
  | query statement parameters => exact (h.pooled fun _ _ => (census_allows statement).queryOn parameters).unit
  | executeMany statement rows => exact (h.executeMany statement rows).unit
  | script text => exact h.pooled fun _ _ => (census_allows text).scriptOn

/-! ## Transaction connections -/

theorem begin (h : InOrder own e known) :
    census.Holds Engine.begin.run (fun _ e' known' => InOrder own e' known') e known := by
  rw [Engine.begin, Monitor.holds_run_bind]
  refine h.checkOut.mono ?_
  rintro (halt | c) e₁ known₁ mine
  · exact mine
  · simp only at mine ⊢
    rw [Monitor.holds_run_bind, Monitor.holds_attempt]
    refine (InOrder.keep mine (census_allows "BEGIN").scriptOn).mono ?_
    rintro (halt | _) e₂ known₂ mine
    · simp only
      rw [Monitor.holds_run_lift_bind]
      exact (giveBack (.inl mine)).mono fun _ _ _ order => order
    · exact Custody.granted mine

/-- whatever a caller does, everything is in order afterwards -/
theorem act (h : InOrder [] e known) (a : Act) :
    census.Holds a.operation.run (fun _ e' known' => InOrder [] e' known') e known := by
  cases a with
  | start => exact along (Custody.start h)
  | close => exact along (Monitor.holds_run_lift.mpr (Custody.close h))
  | createDatabase => exact along (Custody.createDatabase h)
  | deleteDatabase => exact along (Custody.deleteDatabase h)
  | pooled job => exact h.pooledJob job
  | begin => exact h.begin.unit
  | held n job => exact Monitor.holds_onHandle (fun _ => h) fun _ c _ _ => h.keep (Job.keeps (census_allows _))
  | commit n => exact along (Custody.commit h)
  | rollback n => exact along (Custody.rollback h)
  | release n => exact along (Monitor.holds_run_lift.mpr ((Custody.release h).mono fun _ _ _ kept => kept.1))
  | discard n => exact along (Monitor.holds_run_lift.mpr (Custody.discard h))
  | forget n => exact along (Monitor.holds_run_lift.mpr (Custody.forget h))

end InOrder

/-- the states that an engine comes to, and the numbers of its connections, however its callers go about it -/
inductive Engine.Reached (config : DatabaseConfig) : Engine → List Nat → Prop where
  | new (drainTimeout : Nat) : Reached config { config, drainTimeout } []
  | act {e e' : Engine} {known : List Nat} {t : List Reply} {result : Except Halt Unit} (a : Act)
      (before : Reached config e known) (said : (a.operation.run.run e).Says t (result, e'))
      (fresh : census.Admits known t) : Reached config e' (t.foldl census.after known)

/-- **An engine is in order in every state that it comes to.** -/
theorem Engine.Reached.inOrder {config : DatabaseConfig} (h : Engine.Reached config e known) : InOrder [] e known := by
  induction h with
  | new drainTimeout => exact Custody.new config drainTimeout
  | act a before said fresh ih => exact (ih.act a).afterwards said fresh

end Tabula.Postgres
