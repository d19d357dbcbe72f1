import Tabula.Proofs.Postgres.Slot
/-!
# The fate of a transaction's connection

What `begin` gives out is a slot with a connection.  In the course of a history of uses, and of steps in which the engine
is closed, the slot is emptied at most once: the connection goes back to the pool, if its transaction was ended before and
the engine is open, or it is closed.  Nothing is sent from an empty slot, nor by what is asked of the slot once the engine
is closed: `Engine.Reached.one_fate`.

The theorem is an induction over the history.  It carries along whether the transaction was ended in what has passed, and
each moment leads from one account of this to the next, or out of the slot.
-/

namespace Tabula.Postgres

open Engine Dialogue

/-! ## Histories -/

/-- a use of a slot -/
inductive Use where
  | demand (d : Demand)
  | release
  | discard
  /-- nobody holds the slot any more -/
  | drop

def Use.act (n : Nat) : Use → Act
  | demand d => d.act n
  | release => .release n
  | discard => .discard n
  | drop => .forget n

/-- what happens to the slot of a transaction -/
inductive Turn where
  | use (u : Use)
  | close (step : Closing)
  /-- the engine takes steps of closing while a demand is under way -/
  | during (d : Demand) (steps : List Closing)

/-- locks tell the slots that are busy: those of demands that are under way -/
def Turn.Fits (n : Nat) : Turn → Prop
  | use _ => True
  | close step => step.Finds n false
  | during _ steps => ∀ step ∈ steps, step.Finds n true

/-- the demand that is made -/
def Turn.demand? : Turn → Option Demand
  | use (.demand d) | during d _ => some d
  | _ => none

/-- texts come one after the other from two sides -/
inductive Shuffle {α : Type} : List α → List α → List α → Prop where
  | done : Shuffle [] [] []
  | left {x : α} {l r t : List α} (h : Shuffle l r t) : Shuffle (x :: l) r (x :: t)
  | right {x : α} {l r t : List α} (h : Shuffle l r t) : Shuffle l (x :: r) (x :: t)

/-- a turn, with the engine before and after, what was said to the server and what the caller got -/
structure Moment where
  before : Engine
  turn : Turn
  said : List Reply
  result : Except Halt Unit
  after : Engine

/-- the turn is taken on a slot.  A demand that is under way while the engine is being closed keeps the slot locked, and
what it asks of the server comes before, between or after what closing asks. -/
def Moment.Happens (n : Nat) (m : Moment) : Prop :=
  m.turn.Fits n ∧
    match m.turn with
    | .use u => ((u.act n).operation.run.run m.before).Says m.said (m.result, m.after)
    | .close step => (step.task.run m.before).Says m.said ((), m.after)
    | .during d steps => ∃ e l r, ((d.act n).operation.run.run m.before).Says l (m.result, e) ∧
        ((Closing.tasks steps).run e).Says r ((), m.after) ∧ Shuffle l r m.said

/-- moments that follow each other -/
def History (n : Nat) : Engine → List Moment → Prop
  | _, [] => True
  | e, m :: rest => m.before = e ∧ m.Happens n ∧ History n m.after rest

/-! ## One fate -/

namespace Moment

variable (c n : Nat)

/-- the transaction is ended on the connection -/
def Concludes (m : Moment) : Prop := ∃ d, m.turn.demand? = some d ∧ d.Ends m.result (hear c m.said)

/-- the connection stays in its slot -/
structure Stays (m : Moment) : Prop where
  before : slot n m.before = some c
  after : slot n m.after = some c
  lent : c ∈ m.after.lent
  reserved : c ∉ m.after.idle
  unclosed : .shut ∉ hear c m.said
  /-- once the engine is closed nothing is sent and all demands fail -/
  closed : m.before.closed = true →
    hear c m.said = [] ∧ ∀ d, m.turn.demand? = some d → m.result = .error (.failed m.before.closedError)

/-- whether the connection goes back to the pool when it leaves its slot -/
def GoesBack (past : List Moment) (m : Moment) : Prop :=
  (m.turn = .use .release ∨ m.turn = .use .drop) ∧ m.before.closed = false ∧ ∃ p ∈ past, p.Concludes c

/-- the connection leaves its slot, for the pool or for good -/
structure Leaves (past : List Moment) (m : Moment) : Prop where
  before : slot n m.before = some c
  after : slot n m.after = none
  undemanded : m.turn.demand? = none
  unlent : c ∉ m.after.lent
  back : m.GoesBack c past → hear c m.said = [] ∧ c ∈ m.after.idle
  closed : ¬m.GoesBack c past → hear c m.said = [.shut] ∧ c ∉ m.after.idle

/-- the connection has left its slot -/
structure Without (m : Moment) : Prop where
  before : slot n m.before = none
  after : slot n m.after = none
  unlent : c ∉ m.after.lent
  /-- nothing is sent from the slot -/
  silent : ∀ u, m.turn = .use u → m.said = []
  refused : ∀ d, m.turn.demand? = some d →
    m.result = .error (.failed (if m.before.closed then m.before.closedError else m.before.releasedError))
  /-- it is not given up again -/
  nothing : m.turn = .use .release ∨ m.turn = .use .discard → m.result = .ok () ∧ m.after = m.before
  /-- closing the engine closes what went back to the pool -/
  heard : hear c m.said = [] ∧ (c ∈ m.after.idle ↔ c ∈ m.before.idle) ∨
    hear c m.said = [.shut] ∧ (∀ u, m.turn ≠ .use u) ∧ c ∈ m.before.idle ∧ c ∉ m.after.idle

end Moment

/-- a connection stays in its slot until it leaves it for good, after what has passed -/
inductive OneFate (c n : Nat) : List Moment → List Moment → Prop where
  | over {past : List Moment} : OneFate c n past []
  | stays {past rest : List Moment} {m : Moment} (here : m.Stays c n) (next : OneFate c n (past ++ [m]) rest) :
    OneFate c n past (m :: rest)
  | leaves {past rest : List Moment} {m : Moment} (here : m.Leaves c n past) (next : ∀ m ∈ rest, m.Without c n) :
    OneFate c n past (m :: rest)

variable {c n : Nat} {f : Bool} {e e' : Engine} {t : List Reply}

/-! ## Moments -/

theorem hear_shuffle {l r : List Reply} (h : Shuffle l r t) (silent : hear c r = []) : hear c t = hear c l := by
  induction h with
  | done => rfl
  | left h ih => rw [hear_cons, hear_cons, ih silent]
  | right h ih =>
    rw [hear_cons, List.append_eq_nil_iff] at silent
    rw [hear_cons, silent.1, ih silent.2, List.nil_append]

theorem Shuffle.eq_right {l r t : List Reply} (h : Shuffle l r t) (empty : l = []) : t = r := by
  induction h with
  | done => rfl
  | left => cases empty
  | right h ih => rw [ih empty]

/-- nothing comes of using an empty slot -/
theorem Left.use {u : Use} {result : Except Halt Unit} (h : Left c n e)
    (said : ((u.act n).operation.run.run e).Says t (result, e')) :
    t = [] ∧ Left c n e' ∧ e'.idle = e.idle ∧
      (∀ d, (Turn.use u).demand? = some d →
        result = .error (.failed (if e.closed then e.closedError else e.releasedError))) ∧
      (Turn.use u = .use .release ∨ Turn.use u = .use .discard → result = .ok () ∧ e' = e) := by
  cases u with
  | demand d =>
    obtain ⟨rfl, refused, rfl⟩ := h.demand said
    exact ⟨rfl, h, rfl, fun _ _ => refused, nofun⟩
  | release =>
    obtain ⟨rfl, rfl, rfl⟩ := says_run_lift_pure (run_release_of_empty h.slot) said
    exact ⟨rfl, h, rfl, nofun, fun _ => ⟨rfl, rfl⟩⟩
  | discard =>
    obtain ⟨rfl, rfl, rfl⟩ := says_run_lift_pure (run_discard_of_empty h.slot) said
    exact ⟨rfl, h, rfl, nofun, fun _ => ⟨rfl, rfl⟩⟩
  | drop =>
    obtain ⟨rfl, rfl, rfl⟩ := says_run_lift_pure (run_forget_of_empty h.slot) said
    exact ⟨rfl, h.forgotten, rfl, nofun, nofun⟩

/-- a connection that has left its slot does not come back -/
theorem Left.moment {m : Moment} (h : Left c n m.before) (happens : m.Happens n) :
    m.Without c n ∧ Left c n m.after := by
  obtain ⟨before, turn, said, result, after⟩ := m
  obtain ⟨fits, happens⟩ := happens
  cases turn with
  | use u =>
    obtain ⟨rfl, left, idle, refused, nothing⟩ := h.use happens
    have same : c ∈ after.idle ↔ c ∈ before.idle := by rw [idle]
    exact ⟨⟨h.slot, left.slot, left.unlent, fun _ _ => rfl, refused, nothing, .inl ⟨rfl, same⟩⟩, left⟩
  | close step =>
    have swept := heard_of_run (h.closing step) happens
    refine ⟨⟨h.slot, swept.left.slot, swept.left.unlent, nofun, nofun, nofun, ?_⟩, swept.left⟩
    exact swept.heard.imp_right fun ⟨heard, gone⟩ => ⟨heard, nofun, gone⟩
  | during d steps =>
    obtain ⟨e, l, r, made, closed, shuffle⟩ := happens
    obtain ⟨rfl, refused, rfl⟩ := h.demand made
    obtain rfl := shuffle.eq_right rfl
    have swept := heard_of_run (h.closingAll steps) closed
    refine ⟨⟨h.slot, swept.left.slot, swept.left.unlent, nofun, fun _ _ => refused, nofun, ?_⟩, swept.left⟩
    exact swept.heard.imp_right fun ⟨heard, gone⟩ => ⟨heard, nofun, gone⟩

variable {m : Moment} {past rest : List Moment}

theorem Moment.concludes_iff {d : Demand} (made : m.turn.demand? = some d) :
    m.Concludes c ↔ d.Ends m.result (hear c m.said) := by
  constructor
  · rintro ⟨d', made', ends⟩
    cases made.symm.trans made'
    exact ends
  · exact fun ends => ⟨d, made, ends⟩

theorem Moment.not_concludes (undemanded : m.turn.demand? = none) : ¬m.Concludes c := by
  rintro ⟨d, made, _⟩
  cases undemanded.symm.trans made

/-- the connection is in its slot, and it is noted whether its transaction was ended in what has passed -/
def Account (c n : Nat) (past : List Moment) (e : Engine) : Prop :=
  ∃ f, Held c n f e ∧ (f = true ↔ ∃ p ∈ past, p.Concludes c)

theorem Held.account {f' : Bool} (h : Held c n f' m.after) (before : f = true ↔ ∃ p ∈ past, p.Concludes c)
    (ended : f' = true ↔ f = true ∨ m.Concludes c) : Account c n (past ++ [m]) m.after := by
  refine ⟨f', h, ended.trans ?_⟩
  rw [before]
  simp only [List.mem_append, List.mem_singleton, or_and_right, exists_or, exists_eq_left]

/-- a connection on which something is demanded stays in its slot, unless it is taken out of it meanwhile -/
theorem Held.stays {d : Demand} {said : List Reply} (h : Held c n f m.before)
    (ended : f = true ↔ ∃ p ∈ past, p.Concludes c) (made : m.turn.demand? = some d)
    (ran : ((d.act n).operation.run.run m.before).Says said (m.result, e)) (heard : hear c m.said = hear c said)
    (still : ∀ {f'}, Held c n f' e → Held c n f' m.after) : m.Stays c n ∧ Account c n (past ++ [m]) m.after := by
  obtain ⟨⟨f', kept⟩, shut⟩ := h.demand ran
  have after : Held c n f' m.after := still kept.held
  constructor
  · refine ⟨h.slot, after.slot, after.lent, after.idle, heard ▸ kept.unclosed, fun closed => ?_⟩
    obtain ⟨rfl, refused⟩ := shut closed
    exact ⟨heard, fun _ _ => refused⟩
  · refine after.account ended ?_
    rw [Moment.concludes_iff made, heard]
    exact kept.ended

theorem Held.leaves {again : Prop} (h : Held c n f m.before) (left : Left c n m.after)
    (undemanded : m.turn.demand? = none) (back : m.GoesBack c past ↔ again)
    (parted : Parted c again m.after [] (hear c m.said)) : m.Leaves c n past ∧ Left c n m.after := by
  refine ⟨⟨h.slot, left.slot, undemanded, left.unlent, ?_, ?_⟩, left⟩
  · exact fun goes => parted.back (back.mp goes)
  · exact fun stays => parted.closed (mt back.mpr stays)

theorem Moment.goesBack_iff (ended : f = true ↔ ∃ p ∈ past, p.Concludes c)
    (givenUp : m.turn = .use .release ∨ m.turn = .use .drop) :
    m.GoesBack c past ↔ f = true ∧ m.before.closed = false := by
  rw [Moment.GoesBack, ← ended, and_iff_right givenUp, and_comm]

/-- a connection in its slot stays there or leaves it -/
theorem Account.moment (h : Account c n past m.before) (happens : m.Happens n) :
    m.Stays c n ∧ Account c n (past ++ [m]) m.after ∨ m.Leaves c n past ∧ Left c n m.after := by
  obtain ⟨f, held, ended⟩ := h
  obtain ⟨before, turn, said, result, after⟩ := m
  obtain ⟨fits, happens⟩ := happens
  cases turn with
  | use u =>
    cases u with
    | demand d => exact .inl (held.stays ended rfl happens rfl id)
    | release =>
      obtain ⟨left, parted⟩ := heard_of_run held.release (says_run_lift happens).2
      exact .inr (held.leaves left rfl (Moment.goesBack_iff ended (.inl rfl)) parted)
    | discard =>
      obtain ⟨left, shut⟩ := heard_of_run held.discard (says_run_lift happens).2
      exact .inr (held.leaves left rfl ⟨nofun, False.elim⟩ ⟨False.elim, fun _ => shut⟩)
    | drop =>
      obtain ⟨left, parted⟩ := heard_of_run held.forget (says_run_lift happens).2
      exact .inr (held.leaves left rfl (Moment.goesBack_iff ended (.inr rfl)) parted)
  | close step =>
    cases step with
    | endPool =>
      obtain ⟨stays, silent⟩ := heard_of_run held.endPool happens
      refine .inl ⟨⟨held.slot, stays.slot, stays.lent, stays.idle, ?_, fun _ => ⟨silent, nofun⟩⟩, ?_⟩
      · exact silent ▸ List.not_mem_nil
      · exact stays.account ended (or_iff_left (Moment.not_concludes rfl)).symm
    | terminate found =>
      obtain ⟨left, shut⟩ := heard_of_run (held.terminate fits) happens
      exact .inr (held.leaves left rfl ⟨nofun, False.elim⟩ ⟨False.elim, fun _ => shut⟩)
  | during d steps =>
    obtain ⟨e, l, r, made, closed, shuffle⟩ := happens
    have closing {f' : Bool} (h : Held c n f' e) : Held c n f' after ∧ hear c r = [] :=
      heard_of_run (h.closingAll fits) closed
    obtain ⟨f', kept⟩ := (held.demand made).1
    have heard : hear c said = hear c l := hear_shuffle shuffle (closing kept.held).2
    exact .inl (held.stays ended rfl made heard fun h => (closing h).1)

/-! ## Whole histories -/

theorem Left.history {moments : List Moment} (h : Left c n e) (history : History n e moments) :
    ∀ m ∈ moments, m.Without c n := by
  induction moments generalizing e with
  | nil => exact fun _ mem => absurd mem List.not_mem_nil
  | cons m rest ih =>
    obtain ⟨rfl, happens, next⟩ := history
    obtain ⟨without, left⟩ := h.moment happens
    exact List.forall_mem_cons.mpr ⟨without, ih left next⟩

theorem Account.history {moments : List Moment} (h : Account c n past e) (history : History n e moments) :
    OneFate c n past moments := by
  induction moments generalizing e past with
  | nil => exact .over
  | cons m rest ih =>
    obtain ⟨rfl, happens, next⟩ := history
    rcases h.moment happens with ⟨stays, account⟩ | ⟨leaves, left⟩
    · exact .stays stays (ih account next)
    · exact .leaves leaves (left.history next)

section Course

variable {σ : Type} (answer : σ → (q : Request) → q.Answer × σ) (s : σ)

/-- a turn that a server answers -/
def Turn.moment (n : Nat) (e : Engine) : Turn → Moment
  | use u =>
    let dialogue := (u.act n).operation.run.run e
    let (result, e') := (Dialogue.run answer s dialogue).1
    ⟨e, use u, Dialogue.transcript answer s dialogue, result, e'⟩
  | close step =>
    let dialogue := step.task.run e
    ⟨e, close step, Dialogue.transcript answer s dialogue, .ok (), (Dialogue.run answer s dialogue).1.2⟩
  | during d steps =>
    let dialogue := (d.act n).operation.run.run e
    let (result, e₁) := (Dialogue.run answer s dialogue).1
    let dialogue' := (Closing.tasks steps).run e₁
    ⟨e, during d steps, Dialogue.transcript answer s dialogue ++ Dialogue.transcript answer s dialogue', result,
      (Dialogue.run answer s dialogue').1.2⟩

/-- turns that a server answers, one after the other -/
def course (n : Nat) : Engine → List Turn → List Moment
  | _, [] => []
  | e, turn :: rest =>
    let m := turn.moment answer s n e
    m :: course n m.after rest

end Course

/-- closing the engine without a break is a history, too -/
theorem exists_history_close (said : (Engine.close.run e).Says t ((), e')) : ∃ moments, History n e moments ∧
    moments.flatMap Moment.said = t ∧ (moments.getLast?.map Moment.after).getD e = e' := by
  rw [close_eq, StateT.run_bind, StateT.run_get, pure_bind, StateT.run_bind] at said
  obtain ⟨front, ⟨_, e₁⟩, back, rfl, first, said⟩ := Dialogue.says_bind.mp said
  simp only at said
  cases isOpen : e.isOpen with
  | false =>
    rw [isOpen] at said
    obtain ⟨rfl, same⟩ := Dialogue.says_pure.mp said
    cases same
    exact ⟨[⟨e, .close .endPool, front, .ok (), e'⟩], ⟨rfl, ⟨trivial, first⟩, trivial⟩, by simp, rfl⟩
  | true =>
    rw [isOpen] at said
    exact ⟨[⟨e, .close .endPool, front, .ok (), e₁⟩, ⟨e₁, .close (.terminate fun _ => false), back, .ok (), e'⟩],
      ⟨rfl, ⟨trivial, first⟩, rfl, ⟨rfl, said⟩, trivial⟩, by simp, rfl⟩

/-- what `begin` gives out is a slot with a connection of its own -/
theorem InOrder.held {known : List Nat} (h : InOrder [c] e known) : Held c e.nextHandle false { e with
    handles := e.handles ++ [(e.nextHandle, ⟨some c, false⟩)], nextHandle := e.nextHandle + 1 } where
  handle := by
    have unused : e.handles.lookup e.nextHandle = none := by
      rw [List.lookup_eq_none_iff]
      intro p mem
      exact bne_iff_ne.mpr (Nat.ne_of_gt (h.numbers p mem))
    rw [List.lookup_append, unused]
    simp
  lent := h.ownLent c List.mem_cons_self
  idle mem := h.apart c mem (h.ownLent c List.mem_cons_self)
  only k g mem := by
    rcases List.mem_append.mp mem with mem | mem
    · exact absurd mem (Custody.unheld_of_own h List.mem_cons_self k g)
    · cases List.mem_singleton.mp mem
      rfl

end Tabula.Postgres
