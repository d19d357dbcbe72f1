import Tabula.Postgres.Engine.Lifetime
import Tabula.Proofs.Postgres.Operations
import Tabula.Proofs.Postgres.Session
/-!
# A connection reserved for a transaction

While a connection is held for a transaction, and while it belongs to another engine, nothing an engine does comes to it
but what is run for that transaction.  `Apart` is what an engine has to satisfy for that, and every operation keeps it.
-/

namespace Tabula.Postgres

open Engine Dialogue

variable {c n x : Nat} {own : Option Nat} {new : Nat → Prop} {e e' : Engine} {l : List Heard} {α : Type}

/-- whether a connection belongs to an engine -/
def Engine.Uses (e : Engine) (c : Nat) : Prop := c ∈ e.idle ∨ ∃ n finished, (n, ⟨some c, finished⟩) ∈ e.handles

/-- a connection that an engine lends to nobody and holds for nobody but the transaction `own`, if there is one -/
structure Apart (c : Nat) (own : Option Nat) (e : Engine) : Prop where
  idle : c ∉ e.idle
  held : ∀ n finished, (n, ⟨some c, finished⟩) ∈ e.handles → own = some n
  /-- the transaction holds no other connection -/
  mine : ∀ n x finished, own = some n → (n, ⟨some x, finished⟩) ∈ e.handles → x = c
  issued : ∀ n, own = some n → n < e.nextHandle

/-- what becomes of an engine that takes a connection from its pool or closes one -/
structure Fewer (e e' : Engine) : Prop where
  idle : ∀ c ∈ e'.idle, c ∈ e.idle
  handles : e'.handles = e.handles
  nextHandle : e'.nextHandle = e.nextHandle
  closed : e'.closed = e.closed

theorem Fewer.refl (e : Engine) : Fewer e e := ⟨fun _ h => h, rfl, rfl, rfl⟩

theorem Fewer.trans {e'' : Engine} (h : Fewer e e') (h' : Fewer e' e'') : Fewer e e'' :=
  ⟨fun c hc => h.idle c (h'.idle c hc), h'.handles.trans h.handles, h'.nextHandle.trans h.nextHandle,
    h'.closed.trans h.closed⟩

theorem Fewer.prepared (e : Engine) (known : List ((Nat × String) × Prepared)) :
    Fewer e { e with prepared := known } := ⟨fun _ h => h, rfl, rfl, rfl⟩

theorem apart_of_not_uses (h : ¬ e.Uses c) : Apart c none e where
  idle mem := h (.inl mem)
  held n finished mem := absurd (.inr ⟨n, finished, mem⟩) h
  mine := by rintro _ _ _ ⟨⟩
  issued := by rintro _ ⟨⟩

theorem Apart.fewer (h : Apart c own e) (less : Fewer e e') : Apart c own e' where
  idle mem := h.idle (less.idle c mem)
  held n finished mem := h.held n finished (less.handles ▸ mem)
  mine n x finished mine mem := h.mine n x finished mine (less.handles ▸ mem)
  issued n mine := less.nextHandle ▸ h.issued n mine

/-! ## Closing connections -/

/-- an engine without a connection -/
def Engine.shorn (x : Nat) (e : Engine) : Engine := { e with
  idle := e.idle.filter (· ≠ x)
  lent := e.lent.filter (· ≠ x)
  prepared := e.prepared.filter fun p => p.1.1 ≠ x }

theorem Fewer.shorn (x : Nat) (e : Engine) : Fewer e (e.shorn x) :=
  ⟨fun _ mem => List.mem_of_mem_filter mem, rfl, rfl, rfl⟩

theorem listen_shut {p : Unit → Engine → List Heard → Prop} :
    (listen c new).Holds (shut x) p e l ↔ p () (e.shorn x) (l ++ if x = c then [.shut] else []) := by
  have heard : (heard? c ⟨.shut x, ()⟩).toList = if x = c then [.shut] else [] := by
    by_cases here : x = c <;> simp [heard?, here]
  rw [← heard]
  constructor
  · intro h
    exact h () fun _ given => nomatch given
  · exact fun h _ _ => h

/-- what is stopped is not heard on the connection -/
theorem listen_cancelAll {p : Unit → Engine → List Heard → Prop} (cs : List Nat) (h : p () e l) :
    (listen c new).Holds (cancelAll cs) p e l := by
  induction cs generalizing l with
  | nil => exact h
  | cons x rest ih =>
    rw [cancelAll]
    refine Monitor.holds_bind.mpr fun _ _ => ?_
    simp only [listen, heard?, Option.toList_none, List.append_nil]
    exact ih h

/-! ## Taking connections from the pool -/

theorem listen_takeIdle {cs : List Nat} (idle : ∀ x ∈ cs, x ∈ e.idle) :
    (listen c new).Holds (takeIdle cs)
      (fun taken e' l' => (Fewer e e' ∧ l' = l) ∧ ∀ x, taken = some x → x ∈ e.idle) e l := by
  -- the dead ones are closed on the way, so the induction is for every engine with fewer connections
  have taken : ∀ e₀ : Engine, Fewer e e₀ → (listen c new).Holds (takeIdle cs)
      (fun taken e' l' => (Fewer e e' ∧ l' = l) ∧ ∀ x, taken = some x → x ∈ e.idle) e₀ l := by
    induction cs with
    | nil =>
      intro e₀ less
      exact ⟨⟨⟨fun _ h => absurd h List.not_mem_nil, less.handles, less.nextHandle, less.closed⟩, rfl⟩,
        by rintro _ ⟨⟩⟩
    | cons y rest ih =>
      obtain ⟨first, others⟩ := List.forall_mem_cons.mp idle
      intro e₀ less
      rw [takeIdle]
      refine Monitor.holds_bind.mpr fun (alive : Bool) _ => ?_
      have silent : l ++ (heard? c ⟨.isAlive y, alive⟩).toList = l := List.append_nil l
      simp only [listen, silent]
      cases alive with
      | true =>
        refine ⟨⟨⟨others, less.handles, less.nextHandle, less.closed⟩, rfl⟩, fun x taken => ?_⟩
        cases taken
        exact first
      | false => exact ih others _ (less.trans (.prepared ..))
  exact taken e (.refl e)

theorem listen_takeConnection :
    (listen c new).Holds takeConnection
      (fun taken e' l' => (Fewer e e' ∧ l' = l) ∧ ∀ x, taken = .ok x → x ∈ e.idle ∨ new x) e l := by
  rw [takeConnection, Monitor.holds_bind, Monitor.holds_get, Monitor.holds_bind]
  refine (listen_takeIdle fun _ h => h).mono ?_
  rintro taken e₁ l₁ ⟨⟨less, rfl⟩, idle⟩
  cases taken with
  | some x =>
    refine ⟨⟨less, rfl⟩, fun y same => ?_⟩
    cases same
    exact .inl (idle x rfl)
  | none =>
    simp only
    rw [Monitor.holds_bind, Monitor.holds_get]
    split
    · rw [Monitor.holds_bind, Monitor.holds_ask]
      intro answer admitted
      simp only [listen, heard?, Option.toList_none, List.append_nil]
      rcases answer with (f | x) | _
      · exact ⟨⟨less, rfl⟩, by rintro _ ⟨⟩⟩
      · refine ⟨⟨less.trans ⟨fun _ h => h, rfl, rfl, rfl⟩, rfl⟩, fun y same => ?_⟩
        cases same
        exact .inr (admitted x rfl)
      · exact ⟨⟨less, rfl⟩, by rintro _ ⟨⟩⟩
    · rw [Monitor.holds_bind, Monitor.holds_ask]
      intro answer _
      simp only [listen, heard?, Option.toList_none, List.append_nil]
      rcases answer with _ | _
      · exact ⟨⟨less, rfl⟩, by rintro _ ⟨⟩⟩
      · exact ⟨⟨less, rfl⟩, by rintro _ ⟨⟩⟩

/-- what an operation takes was idle or is new, and nothing is heard of it -/
theorem listen_checkOut :
    (listen c new).Holds checkOut.run
      (fun taken e' l' => (Fewer e e' ∧ l' = l) ∧ ∀ x, taken = .ok x → x ∈ e.idle ∨ new x) e l := by
  rw [checkOut, Monitor.holds_run_get_bind]
  simp only
  split
  · exact ⟨⟨.refl e, rfl⟩, by rintro _ ⟨⟩⟩
  · split
    · exact ⟨⟨.refl e, rfl⟩, by rintro _ ⟨⟩⟩
    · rw [Monitor.holds_run_lift_bind]
      refine listen_takeConnection.mono ?_
      rintro taken e₁ l₁ ⟨less, origin⟩
      rcases taken with (f | _ | _) | x
      · exact ⟨less, by rintro _ ⟨⟩⟩
      · exact ⟨less, by rintro _ ⟨⟩⟩
      · exact ⟨less, by rintro _ ⟨⟩⟩
      · refine ⟨less, fun y same => ?_⟩
        cases same
        exact origin x rfl

/-! ## Operations that stay aside -/

/-- an engine that stays apart from a connection, to which nothing comes -/
structure Aside (c : Nat) (own : Option Nat) (e : Engine) (l : List Heard) (e' : Engine) (l' : List Heard) :
    Prop where
  apart : Apart c own e'
  closed : e'.closed = e.closed
  silent : l' = l

theorem Apart.aside (h : Apart c own e) : Aside c own e l e l := ⟨h, rfl, rfl⟩

theorem Aside.trans {l l' l'' : List Heard} {e'' : Engine} (h : Aside c own e l e' l')
    (h' : Aside c own e' l' e'' l'') : Aside c own e l e'' l'' :=
  ⟨h'.apart, h'.closed.trans h.closed, h'.silent.trans h.silent⟩

namespace Apart

theorem aside_of_fewer (h : Apart c own e) (less : Fewer e e') : Aside c own e l e' l :=
  ⟨h.fewer less, less.closed, rfl⟩

/-- a connection is closed -/
theorem shut_any (h : Apart c own e) : (listen c new).Holds (shut x)
    (fun _ e' l' => Apart c own e' ∧ e'.closed = e.closed ∧ (x ≠ c → l' = l)) e l := by
  refine listen_shut.mpr ⟨h.fewer (.shorn x e), rfl, fun other => ?_⟩
  rw [if_neg other, List.append_nil]

theorem shut (h : Apart c own e) (other : x ≠ c) :
    (listen c new).Holds (shut x) (fun _ => Aside c own e l) e l :=
  h.shut_any.mono fun _ _ _ ⟨apart, closed, silent⟩ => ⟨apart, closed, silent other⟩

theorem giveBack (h : Apart c own e) (other : x ≠ c) :
    (listen c new).Holds (giveBack x) (fun _ => Aside c own e l) e l := by
  rw [Engine.giveBack, Monitor.holds_bind, Monitor.holds_get]
  split
  · split
    · exact h.shut other
    · refine ⟨⟨fun mem => ?_, h.held, h.mine, h.issued⟩, rfl, rfl⟩
      rcases List.mem_append.mp mem with mem | mem
      · exact h.idle mem
      · exact other (List.mem_singleton.mp mem).symm
  · exact h.aside

/-- an operation on another connection of the pool -/
theorem onConnection {op : Nat → Operation α} (h : Apart c own e) (fresh : ¬ new c)
    (aside : ∀ x e, x ≠ c → Apart c own e → (listen c new).Holds (op x).run (fun _ => Aside c own e l) e l) :
    (listen c new).Holds (onConnection op).run (fun _ => Aside c own e l) e l := by
  rw [Engine.onConnection, Monitor.holds_run_bind]
  refine listen_checkOut.mono ?_
  rintro taken e₁ l₁ ⟨⟨less, rfl⟩, origin⟩
  cases taken with
  | error halt => exact h.aside_of_fewer less
  | ok x =>
    have other : x ≠ c := by
      rintro rfl
      exact (origin x rfl).elim h.idle fresh
    simp only
    rw [Monitor.holds_run_bind, Monitor.holds_attempt]
    refine (aside x e₁ other (h.fewer less)).mono fun result e₂ l₂ passed => ?_
    simp only
    rw [Monitor.holds_run_lift_bind]
    refine (passed.apart.giveBack other).mono fun _ e₃ l₃ back => ?_
    rw [Monitor.holds_ending]
    exact (h.aside_of_fewer less).trans (passed.trans back)

/-- an operation that is not heard and changes nothing but prepared statements -/
theorem unheard {op : Operation α} (h : Apart c own e) (keeps : (listen c new).Keeps (· = l) True op) :
    (listen c new).Holds op.run (fun _ => Aside c own e l) e l := by
  refine (keeps e l rfl).mono ?_
  rintro _ _ _ ⟨⟨known, rfl⟩, rfl, _⟩
  exact h.aside_of_fewer (.prepared e known)

/-- a statement on another connection of the pool -/
theorem pooled {statement : String} {op : Nat → Operation α} (h : Apart c own e) (fresh : ¬ new c)
    (keeps : ∀ (keep : List Heard → Prop) x, (listen c new).Allows keep True x statement →
      (listen c new).Keeps keep True (op x)) :
    (listen c new).Holds (Engine.onConnection op).run (fun _ => Aside c own e l) e l :=
  h.onConnection fresh fun x _ other h => h.unheard (keeps _ x (listen_allows_of_ne other))

/-- a batch on another connection is ended -/
theorem concludeBatch (h : Apart c own e) (other : x ≠ c) (result : Except Halt Nat) :
    (listen c new).Holds (concludeBatch x result).run (fun _ => Aside c own e l) e l := by
  rcases result with (err | _) | total
  · rw [Engine.concludeBatch, Monitor.holds_run_bind, Monitor.holds_attempt]
    refine (h.unheard (listen_allows_of_ne other).scriptOn).mono ?_
    rintro ((_ | _) | _) e₁ l₁ aside
    · simp only
      rw [Monitor.holds_run_lift_bind]
      exact (aside.apart.shut other).mono fun _ e₂ l₂ shut => aside.trans shut
    · exact aside
    · exact aside
  · exact h.aside
  · rw [Engine.concludeBatch, Monitor.holds_run_bind]
    refine (h.unheard (listen_allows_of_ne other).scriptOn).mono ?_
    rintro (halt | _) e₁ l₁ aside
    · exact aside
    · exact aside

theorem executeMany (h : Apart c own e) (fresh : ¬ new c) (statement : String) (rows : List (List Value)) :
    (listen c new).Holds (executeMany statement rows).run (fun _ => Aside c own e l) e l := by
  refine h.onConnection fresh fun x e other h => ?_
  rw [Monitor.holds_run_bind]
  refine (h.unheard (listen_allows_of_ne other).scriptOn).mono ?_
  rintro (halt | _) e₁ l₁ opened
  · exact opened
  · simp only
    rw [Monitor.holds_run_bind, Monitor.holds_attempt, opened.silent]
    refine (opened.apart.unheard ((listen_allows_of_ne other).executeManyOn rows)).mono fun result e₂ l₂ ran => ?_
    simp only
    rw [ran.silent]
    refine (ran.apart.concludeBatch other result).mono fun _ e₃ l₃ ended => ?_
    exact ⟨ended.apart, ended.closed.trans (ran.closed.trans opened.closed), ended.silent⟩

/-! ## Transaction connections -/

/-- another transaction is begun, under another number -/
theorem begin (h : Apart c own e) (fresh : ¬ new c) :
    (listen c new).Holds Engine.begin.run
      (fun result e' l' => Aside c own e l e' l' ∧ ∀ n, result = .ok n → own ≠ some n) e l := by
  rw [Engine.begin, Monitor.holds_run_bind]
  refine listen_checkOut.mono ?_
  rintro taken e₁ l₁ ⟨⟨less, rfl⟩, origin⟩
  cases taken with
  | error halt => exact ⟨h.aside_of_fewer less, by rintro _ ⟨⟩⟩
  | ok x =>
    have other : x ≠ c := by
      rintro rfl
      exact (origin x rfl).elim h.idle fresh
    have apart : Apart c own e₁ := h.fewer less
    simp only
    rw [Monitor.holds_run_bind, Monitor.holds_attempt]
    refine (apart.unheard (listen_allows_of_ne other).scriptOn).mono ?_
    intro result e₂ l₂ opened
    have passed := (h.aside_of_fewer less).trans opened
    cases result with
    | ok _ =>
      -- the new number is of another connection, and no transaction had it before
      refine ⟨⟨⟨opened.apart.idle, fun n finished mem => ?_, fun n y finished mine mem => ?_, fun n mine => ?_⟩,
        passed.closed, passed.silent⟩, fun n same mine => ?_⟩
      · rcases List.mem_append.mp mem with mem | mem
        · exact opened.apart.held n finished mem
        · cases List.mem_singleton.mp mem
          exact absurd rfl other
      · rcases List.mem_append.mp mem with mem | mem
        · exact opened.apart.mine n y finished mine mem
        · have issued : n < e₂.nextHandle := opened.apart.issued n mine
          cases List.mem_singleton.mp mem
          exact absurd issued (Nat.lt_irrefl _)
      · exact Nat.lt_succ_of_lt (opened.apart.issued n mine)
      · have issued : n < e₂.nextHandle := opened.apart.issued n mine
        cases same
        exact absurd issued (Nat.lt_irrefl _)
    | error halt =>
      simp only
      rw [Monitor.holds_run_lift_bind]
      refine (opened.apart.giveBack other).mono fun _ e₃ l₃ back => ?_
      exact ⟨passed.trans back, by rintro _ ⟨⟩⟩

/-- an operation on the connection of another transaction -/
theorem onHandle {op : Nat → Operation α} (h : Apart c own e) (another : own ≠ some n)
    (aside : ∀ x, x ≠ c → (listen c new).Holds (op x).run (fun _ => Aside c own e l) e l) :
    (listen c new).Holds (onHandle n op).run (fun _ => Aside c own e l) e l := by
  refine Monitor.holds_onHandle (fun _ => h.aside) fun _ x finished there => aside x ?_
  rintro rfl
  exact another (h.held n finished there)

/-- the state of a transaction connection changes -/
theorem reset (h : Apart c own e) {handle : Handle} (stays : handle.connection = some c → own = some n)
    (mine : own = some n → ∀ x, handle.connection = some x → x = c) :
    Apart c own { e with handles := Custody.reset n handle e.handles } where
  idle := h.idle
  held k finished mem := by
    rcases Custody.mem_reset mem with same | ⟨_, mem⟩
    · cases same
      exact stays rfl
    · exact h.held k finished mem
  mine k x finished own_k mem := by
    rcases Custody.mem_reset mem with same | ⟨_, mem⟩
    · cases same
      exact mine own_k x rfl
    · exact h.mine k x finished own_k mem
  issued := h.issued

theorem finish (h : Apart c own e) (another : own ≠ some n) (command : String) :
    (listen c new).Holds (finish n command).run (fun _ => Aside c own e l) e l := by
  refine h.onHandle another fun x other => ?_
  rw [Monitor.holds_run_bind]
  refine (h.unheard (listen_allows_of_ne other).scriptOn).mono ?_
  rintro (halt | _) e₁ l₁ aside
  · exact aside
  · refine ⟨aside.apart.reset (fun same => ?_) fun mine => absurd mine another, aside.closed, aside.silent⟩
    exact absurd (Option.some.inj same) other

/-- a connection is taken out of a transaction connection -/
theorem vacate (h : Apart c own e) : (listen c new).Holds (vacate n) (fun taken e' l' =>
    Aside c own e l e' l' ∧ ∀ finished, taken = some (c, finished) → own = some n) e l := by
  rw [Engine.vacate, Monitor.holds_bind, Monitor.holds_get]
  split
  · next x finished found =>
    refine ⟨⟨h.reset (by rintro ⟨⟩) (by rintro _ _ ⟨⟩), rfl, rfl⟩, fun finished' same => ?_⟩
    cases same
    exact h.held n finished (Keyed.mem_of_lookup found)
  · exact ⟨h.aside, by rintro _ ⟨⟩⟩

theorem release (h : Apart c own e) (another : own ≠ some n) :
    (listen c new).Holds (release n) (fun _ => Aside c own e l) e l := by
  rw [Engine.release, Monitor.holds_bind]
  refine h.vacate.mono ?_
  rintro taken e₁ l₁ ⟨vacated, mine⟩
  rcases taken with _ | ⟨x, finished⟩
  · exact vacated
  · have other : x ≠ c := by
      rintro rfl
      exact another (mine finished rfl)
    cases finished with
    | true => exact (vacated.apart.giveBack other).mono fun _ _ _ back => vacated.trans back
    | false => exact (vacated.apart.shut other).mono fun _ _ _ shut => vacated.trans shut

/-- any transaction connection is given up; this is heard if it is the one's own -/
theorem discard_any (h : Apart c own e) : (listen c new).Holds (Engine.discard n)
    (fun _ e' l' => Apart c own e' ∧ e'.closed = e.closed ∧ (own ≠ some n → l' = l)) e l := by
  rw [Engine.discard, Monitor.holds_bind]
  refine h.vacate.mono ?_
  rintro taken e₁ l₁ ⟨vacated, mine⟩
  rcases taken with _ | ⟨x, finished⟩
  · exact ⟨vacated.apart, vacated.closed, fun _ => vacated.silent⟩
  · refine vacated.apart.shut_any.mono ?_
    rintro _ e₂ l₂ ⟨apart, closed, silent⟩
    refine ⟨apart, closed.trans vacated.closed, fun another => (silent ?_).trans vacated.silent⟩
    rintro rfl
    exact another (mine finished rfl)

theorem discard (h : Apart c own e) (another : own ≠ some n) :
    (listen c new).Holds (Engine.discard n) (fun _ => Aside c own e l) e l :=
  h.discard_any.mono fun _ _ _ ⟨apart, closed, silent⟩ => ⟨apart, closed, silent another⟩

/-! ## Closing -/

theorem shutAll {cs : List Nat} (h : Apart c own e) (others : ∀ x ∈ cs, x ≠ c) :
    (listen c new).Holds (shutAll cs) (fun _ => Aside c own e l) e l := by
  induction cs generalizing e l with
  | nil => exact h.aside
  | cons x rest ih =>
    obtain ⟨first, others⟩ := List.forall_mem_cons.mp others
    rw [Engine.shutAll, Monitor.holds_bind]
    refine (h.shut first).mono fun _ e₁ l₁ shut => ?_
    exact (ih shut.apart others).mono fun _ e₂ l₂ all => shut.trans all

theorem discardAll {handles : List (Nat × Handle)} (h : Apart c own e) : (listen c new).Holds (discardAll handles)
    (fun _ e' l' => Apart c own e' ∧ e'.closed = e.closed ∧ (own = none → l' = l)) e l := by
  induction handles generalizing e l with
  | nil => exact ⟨h, rfl, fun _ => rfl⟩
  | cons p rest ih =>
    rw [Engine.discardAll, Monitor.holds_bind]
    refine h.discard_any.mono ?_
    rintro _ e₁ l₁ ⟨apart, closed, silent⟩
    refine (ih apart).mono ?_
    rintro _ e₂ l₂ ⟨apart, closed', silent'⟩
    refine ⟨apart, closed'.trans closed, fun none => (silent' none).trans (silent ?_)⟩
    rw [none]
    rintro ⟨⟩

/-- the engine is closed; where the connection is held for a transaction, this is heard -/
theorem close (h : Apart c own e) : (listen c new).Holds close
    (fun _ e' l' => Apart c own e' ∧ e'.closed = true ∧ (own = none → l' = l)) e l := by
  rw [Engine.close, Monitor.holds_bind, Monitor.holds_get, Monitor.holds_bind, Monitor.holds_set]
  have closing : Apart c own { e with closed := true, isOpen := false } := ⟨h.idle, h.held, h.mine, h.issued⟩
  split
  · rw [Monitor.holds_bind]
    have others : ∀ x ∈ e.idle, x ≠ c := by
      rintro x idle rfl
      exact h.idle idle
    refine (closing.shutAll others).mono fun _ e₁ l₁ shut => ?_
    rw [Monitor.holds_bind, Monitor.holds_get, Monitor.holds_bind]
    refine shut.apart.discardAll.mono ?_
    rintro _ e₂ l₂ ⟨apart, closed, silent⟩
    rw [Monitor.holds_bind, Monitor.holds_get]
    exact listen_cancelAll _ ⟨apart, closed.trans shut.closed, fun none => (silent none).trans shut.silent⟩
  · exact ⟨closing, rfl, fun _ => rfl⟩

/-! ## What is run for the transaction -/

/-- a plain statement on the connection -/
theorem onOwn {commands : Commands} {op : Nat → Operation α} (h : Apart c (some n) e)
    (plainly : (listen c new).Keeps (fun l' => ∃ more, l' = l ++ more ∧ ∀ h ∈ more, h.Plain commands) True (op c)) :
    (listen c new).Holds (Engine.onHandle n op).run (fun _ e' l' => Apart c (some n) e' ∧ e'.closed = e.closed ∧
      ∃ more, l' = l ++ more ∧ ∀ h ∈ more, h.Plain commands) e l := by
  have nothing : ∃ more, l = l ++ more ∧ ∀ h ∈ more, h.Plain commands :=
    ⟨[], (List.append_nil l).symm, fun _ mem => absurd mem List.not_mem_nil⟩
  refine Monitor.holds_onHandle (fun _ => ⟨h, rfl, nothing⟩) fun _ x finished there => ?_
  obtain rfl : x = c := h.mine n x finished rfl there
  refine (plainly e l nothing).mono ?_
  rintro _ _ l' ⟨⟨known, rfl⟩, heard, _⟩
  exact ⟨h.fewer (.prepared e known), rfl, heard⟩

end Apart

/-- an engine that is open and whose transaction is marked as finished -/
structure Finished (c n : Nat) (e : Engine) : Prop where
  isOpen : e.closed = false
  handle : ∀ h, (n, h) ∈ e.handles → h = ⟨some c, true⟩

/-- a transaction is committed only on an engine that is not closed, and `COMMIT` comes to the connection -/
theorem Apart.commit (h : Apart c (some n) e) : (listen c new).Holds (Engine.commit n).run
    (fun result e' l' => result = .ok () → e.closed = false ∧ l' = l ++ [.committed] ∧ Finished c n e') e l := by
  refine Monitor.holds_onHandle (by rintro _ ⟨⟩) fun isOpen x finished there => ?_
  obtain rfl : x = c := h.mine n x finished rfl there
  refine Monitor.holds_run_bind.mpr (Monitor.holds_scriptOn.mpr fun answer _ => ?_)
  rcases answer with (f | _) | _
  · rintro ⟨⟩
  · refine fun _ => ⟨isOpen, ?_, isOpen, fun handle mem => ?_⟩
    · simp only [listen, heard?, if_true, Option.toList_some]
      rfl
    · rcases Custody.mem_reset mem with same | ⟨other, _⟩
      · exact (Prod.mk.inj same).2
      · exact absurd rfl other
  · rintro ⟨⟩

/-- the connection of a finished transaction goes back to the pool as it is -/
theorem Finished.release (h : Finished c n e) : (listen c new).Holds (Engine.release n) (fun _ _ l' => l' = l) e l := by
  rw [Engine.release, Monitor.holds_bind, Engine.vacate, Monitor.holds_bind, Monitor.holds_get]
  split
  · next x finished found =>
    have handle := h.handle _ (Keyed.mem_of_lookup found)
    cases handle
    refine Monitor.holds_bind.mpr ?_
    simp only [setHandle, Monitor.holds_modify, Monitor.holds_pure]
    rw [Engine.giveBack, Monitor.holds_bind, Monitor.holds_get]
    split
    · rw [if_neg (by simp [h.isOpen])]
      rfl
    · rfl
  · rfl

end Tabula.Postgres
