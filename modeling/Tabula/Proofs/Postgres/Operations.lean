import Tabula.Postgres.Engine.Lifetime
import Tabula.Postgres.Engine.Operations
import Tabula.Proofs.Postgres.Custody
import Tabula.Proofs.Postgres.Statement
/-!
# Operations on an engine keep custody

Whatever an operation does and wherever it stops, the connections of the engine are accounted for afterwards.  Two
operations need a patient caller for that: those that open a transaction on a connection before anybody holds it for
the transaction.
-/

namespace Tabula.Postgres

open Engine Dialogue

variable {s : Setting} {own : List Nat} {e : Engine} {w : Watch} {c n : Nat} {statement : String}

/-! ## Commands -/

/-- a statement without parameters and its answer -/
theorem Setting.holds_scriptOn {p : Except Halt Unit → Engine → Watch → Prop} {text : String} :
    s.watch.Holds (scriptOn c text).run p e w ↔ ∀ answer : Awaited Unit, s.watch.admits w ⟨.batch c text, answer⟩ →
      p answer.result e (w.ran c (s.commands.of text) answer) := Monitor.holds_scriptOn

/-- the end of a transaction: the connection is outside whatever the answer -/
theorem Setting.holds_commit {p : Except Halt Unit → Engine → Watch → Prop}
    (h : ∀ result, p result e (w.left c)) : s.watch.Holds (scriptOn c "COMMIT").run p e w := by
  refine Setting.holds_scriptOn.mpr fun answer _ => ?_
  rw [s.commands.commit]
  exact h _

/-- taking a transaction back: the connection is outside if that succeeds -/
theorem Setting.holds_rollback {p : Except Halt Unit → Engine → Watch → Prop}
    (done : p (.ok ()) e (w.left c)) (failed : ∀ err, p (.error (.failed err)) e w)
    (dropped : (s.patient → c ∉ w.inside) → p (.error .dropped) e w) :
    s.watch.Holds (scriptOn c "ROLLBACK").run p e w := by
  refine Setting.holds_scriptOn.mpr fun answer admitted => ?_
  rw [s.commands.rollback]
  match answer with
  | .arrived (.ok ()) => exact done
  | .arrived (.error f) => exact failed _
  | .dropped =>
    refine dropped fun patient => ?_
    have outside := admitted.2 patient c rfl
    simpa only [Watch.after, s.commands.rollback, Watch.ran] using outside

/-- opening a transaction: a patient caller waits for it -/
theorem Setting.holds_begin {p : Except Halt Unit → Engine → Watch → Prop} (patient : s.patient)
    (done : p (.ok ()) e (w.entered c)) (failed : ∀ err, p (.error (.failed err)) e w) :
    s.watch.Holds (scriptOn c "BEGIN").run p e w := by
  refine Setting.holds_scriptOn.mpr fun answer admitted => ?_
  rw [s.commands.begin_]
  match answer with
  | .arrived (.ok ()) => exact done
  | .arrived (.error f) => exact failed _
  | .dropped =>
    have outside := admitted.2 patient c rfl
    simp only [Watch.after, s.commands.begin_, Watch.ran] at outside
    exact absurd List.mem_cons_self outside

theorem run_attempt_scriptOn {text : String} :
    (Engine.attempt (Engine.scriptOn c text)).run.run e =
      .ask (.batch c text) fun answer => .done (.ok (Awaited.result answer), e) := by
  refine congrArg (Dialogue.ask _) (funext fun answer => ?_)
  match answer with
  | .arrived (.ok ()) => rfl
  | .arrived (.error f) => rfl
  | .dropped => rfl

/-- a transaction is begun on a connection of the pool -/
theorem says_begin {e' : Engine} {t : List Reply} (said : (Engine.begin.run.run e).Says t (.ok n, e')) :
    ∃ c e₁ front, t = front ++ [⟨.batch c "BEGIN", .arrived (.ok ())⟩] ∧
      (Engine.checkOut.run.run e).Says front (.ok c, e₁) ∧ n = e₁.nextHandle ∧
      e' = { e₁ with handles := e₁.handles ++ [(n, ⟨some c, false⟩)], nextHandle := n + 1 } := by
  rw [Engine.begin, ExceptT.run_bind, StateT.run_bind] at said
  obtain ⟨front, ⟨taken, e₁⟩, back, rfl, out, said⟩ := Dialogue.says_bind.mp said
  cases taken with
  | error halt => cases (Dialogue.says_pure.mp said).2
  | ok c =>
    simp only at said
    rw [ExceptT.run_bind, StateT.run_bind, run_attempt_scriptOn] at said
    obtain ⟨_, ⟨_, _⟩, rest, rfl, asked, said⟩ := Dialogue.says_bind.mp said
    obtain ⟨answer, _, rfl, done⟩ := Dialogue.says_ask.mp asked
    cases done
    -- whatever comes of giving the connection back, the error is thrown after it
    have failed : ∀ halt, ¬ ((do Engine.giveBack c; throw halt : Operation Nat).run.run e₁).Says rest (.ok n, e') := by
      intro halt said
      rw [ExceptT.run_bind, StateT.run_bind] at said
      obtain ⟨_, ⟨back, e₂⟩, rest, rfl, _, said⟩ := Dialogue.says_bind.mp said
      cases back with
      | error halt => cases (Dialogue.says_pure.mp said).2
      | ok _ => cases (Dialogue.says_pure.mp said).2
    rcases answer with (f | _) | _
    · exact absurd said (failed _)
    · obtain ⟨rfl, same⟩ := Dialogue.says_pure.mp said
      cases same
      exact ⟨c, e₁, front, rfl, out, rfl, rfl⟩
    · exact absurd said (failed _)

/-- a statement changes nothing for other connections -/
theorem Watch.mem_of_mem_ran {α : Type} {command : Option Command} {answer : Awaited α} {x : Nat}
    (h : x ∈ (w.ran c command answer).inside) (other : x ≠ c) : x ∈ w.inside := by
  unfold ran at h
  split at h
  · exact h
  · exact (List.mem_cons.mp h).resolve_left other
  · exact (Custody.mem_left.mp h).1
  · exact (Custody.mem_left.mp h).1
  · exact h
  · exact h

namespace Custody

/-! ## Operations on the pool -/

/-- what leaves transactions alone leaves its connection fit to be returned -/
theorem quiet {α : Type} {op : Nat → Operation α} (h : Custody own e w) (alone : ∀ c, s.Quiet c (op c)) :
    s.watch.Holds (Engine.onConnection op).run (fun _ e' w' => Custody own e' w') e w := by
  refine h.onConnection fun c e w custody outside => (alone c e w).mono ?_
  rintro result _ _ ⟨⟨known, rfl⟩, rfl, _⟩
  exact .inl ⟨custody.withPrepared known, outside⟩

/-- a batch whose caller waits leaves its connection fit to be returned -/
theorem concludeBatch (h : Custody (c :: own) e w) (inside : c ∈ w.inside) (patient : s.patient)
    {result : Except Halt Nat} (waited : result ≠ .error .dropped) :
    s.watch.Holds (Engine.concludeBatch c result).run (fun _ e' w' => Returned own c e' w') e w := by
  have outside : c ∉ (w.left c).inside := fun mem => (mem_left.mp mem).2 rfl
  match result with
  | .ok total =>
    rw [Engine.concludeBatch, Monitor.holds_run_bind]
    refine Setting.holds_commit fun result => ?_
    cases result with
    | ok u => exact .inl ⟨h.left c, outside⟩
    | error halt => exact .inl ⟨h.left c, outside⟩
  | .error (.failed err) =>
    rw [Engine.concludeBatch, Monitor.holds_run_bind, Monitor.holds_attempt]
    refine Setting.holds_rollback ?_ ?_ ?_
    · exact .inl ⟨h.left c, outside⟩
    · intro err'
      simp only
      rw [Monitor.holds_run_lift_bind]
      refine h.shutOwn.mono ?_
      rintro _ e' w' ⟨custody, gone, _, _⟩
      exact .inr ⟨custody, gone⟩
    · exact fun free => absurd inside (free patient)
  | .error .dropped => exact absurd rfl waited

theorem executeMany (h : Custody own e w) (patient : s.patient) (plain : s.Plain statement)
    (rows : List (List Value)) :
    s.watch.Holds (Engine.executeMany statement rows).run (fun _ e' w' => Custody own e' w') e w := by
  refine h.onConnection fun c e w custody outside => ?_
  rw [Monitor.holds_run_bind]
  refine Setting.holds_begin patient ?_ fun err => .inl ⟨custody, outside⟩
  simp only
  have inside : c ∈ (w.entered c).inside := List.mem_cons_self
  rw [Monitor.holds_run_bind, Monitor.holds_attempt]
  refine ((plain.allows (w.entered c)).executeManyOn rows e _ rfl).mono ?_
  rintro result _ _ ⟨⟨known, rfl⟩, rfl, waited⟩
  have mine : Custody (c :: own) { e with prepared := known } (w.entered c) :=
    (custody.entered List.mem_cons_self).withPrepared known
  exact mine.concludeBatch inside patient fun dropped => waited dropped patient inside

/-! ## Transaction connections -/

/-- an operation's connection is held for a transaction from now on -/
theorem granted (h : Custody (c :: own) e w) :
    Custody own
      { e with handles := e.handles ++ [(e.nextHandle, ⟨some c, false⟩)], nextHandle := e.nextHandle + 1 } w where
  idleOnce := h.idleOnce
  idleKnown := h.idleKnown
  lentKnown := h.lentKnown
  apart := h.apart
  numbered := by
    rw [List.map_append, List.nodup_append]
    refine ⟨h.numbered, List.nodup_singleton _, fun n hn n' hn' same => ?_⟩
    obtain ⟨p, hp, rfl⟩ := List.mem_map.mp hn
    have lt : p.1 < e.nextHandle := h.numbers p hp
    obtain rfl := List.mem_singleton.mp hn'
    omega
  numbers p hp := by
    rcases List.mem_append.mp hp with hp | hp
    · exact Nat.lt_succ_of_lt (h.numbers p hp)
    · obtain rfl := List.mem_singleton.mp hp
      exact Nat.lt_succ_self _
  held n x finished hx := by
    rcases List.mem_append.mp hx with hx | hx
    · obtain ⟨lent, free⟩ := h.held n x finished hx
      exact ⟨lent, fun mem => free (List.mem_cons_of_mem c mem)⟩
    · cases List.mem_singleton.mp hx
      exact ⟨h.ownLent c List.mem_cons_self, (List.nodup_cons.mp h.ownOnce).1⟩
  heldOnce n n' x finished finished' hx hx' := by
    have free : ∀ n finished, (n, ⟨some c, finished⟩) ∉ e.handles := h.unheld_of_own List.mem_cons_self
    rcases List.mem_append.mp hx with hx | hx <;> rcases List.mem_append.mp hx' with hx' | hx'
    · exact h.heldOnce n n' x finished finished' hx hx'
    · cases List.mem_singleton.mp hx'
      exact absurd hx (free n finished)
    · cases List.mem_singleton.mp hx
      exact absurd hx' (free n' finished')
    · cases List.mem_singleton.mp hx
      cases List.mem_singleton.mp hx'
      rfl
  ownOnce := (List.nodup_cons.mp h.ownOnce).2
  ownLent x hx := h.ownLent x (List.mem_cons_of_mem c hx)
  accounted x hx := by
    rcases h.accounted x hx with mem | ⟨n, held⟩
    · rcases List.mem_cons.mp mem with rfl | mem
      · exact .inr ⟨_, List.mem_append_right _ (List.mem_singleton.mpr rfl)⟩
      · exact .inl mem
    · exact .inr ⟨n, List.mem_append_left _ held⟩

theorem begin (h : Custody own e w) (patient : s.patient) :
    s.watch.Holds Engine.begin.run (fun _ e' w' => Custody own e' w') e w := by
  rw [Engine.begin, Monitor.holds_run_bind]
  refine h.checkOut.mono ?_
  rintro (halt | c) e₁ w₁ ⟨_, custody⟩
  · exact custody
  · simp only
    rw [Monitor.holds_run_bind, Monitor.holds_attempt]
    refine Setting.holds_begin patient ?_ fun err => ?_
    · exact (custody.1.entered List.mem_cons_self).granted
    · simp only
      rw [Monitor.holds_run_lift_bind]
      refine (giveBack (.inl custody)).mono ?_
      rintro _ e₂ w₂ ⟨custody, _, _⟩
      exact custody

/-- an operation on a transaction connection that may still be used -/
theorem onHandle {α : Type} {op : Nat → Operation α} (h : Custody own e w)
    (fit : ∀ c finished, (n, ⟨some c, finished⟩) ∈ e.handles →
      s.watch.Holds (op c).run (fun _ e' w' => Custody own e' w') e w) :
    s.watch.Holds (Engine.onHandle n op).run (fun _ e' w' => Custody own e' w') e w :=
  Monitor.holds_onHandle (fun _ => h) fun _ => fit

theorem quietOnHandle {α : Type} {op : Nat → Operation α} (h : Custody own e w) (alone : ∀ c, s.Quiet c (op c)) :
    s.watch.Holds (Engine.onHandle n op).run (fun _ e' w' => Custody own e' w') e w := by
  refine h.onHandle fun c _ _ => (alone c e w).mono ?_
  rintro result _ _ ⟨⟨known, rfl⟩, rfl, _⟩
  exact h.withPrepared known

/-- the transaction connections after one of them changed -/
def reset (n : Nat) (h : Handle) (handles : List (Nat × Handle)) : List (Nat × Handle) :=
  handles.map fun p => if p.1 = n then (n, h) else p

theorem fst_reset (n : Nat) (h : Handle) (handles : List (Nat × Handle)) :
    (reset n h handles).map Prod.fst = handles.map Prod.fst := by
  rw [reset, List.map_map]
  refine List.map_congr_left fun p _ => ?_
  by_cases here : p.1 = n
  · simp [here]
  · simp [here]

theorem mem_reset {h : Handle} {handles : List (Nat × Handle)} {p : Nat × Handle} (mem : p ∈ reset n h handles) :
    p = (n, h) ∨ p.1 ≠ n ∧ p ∈ handles := by
  obtain ⟨q, hq, rfl⟩ := List.mem_map.mp mem
  by_cases here : q.1 = n
  · rw [if_pos here]
    exact .inl rfl
  · rw [if_neg here]
    exact .inr ⟨here, hq⟩

theorem mem_reset_of_ne {h : Handle} {handles : List (Nat × Handle)} {p : Nat × Handle} (other : p.1 ≠ n)
    (mem : p ∈ handles) : p ∈ reset n h handles :=
  List.mem_map.mpr ⟨p, mem, if_neg other⟩

/-- a number stands for one connection -/
theorem handle_eq (h : Custody own e w) {x y : Handle} (hx : (n, x) ∈ e.handles) (hy : (n, y) ∈ e.handles) : x = y := by
  have same : (n, x) = (n, y) := List.inj_on_of_nodup_map h.numbered hx hy rfl
  exact (Prod.mk.inj same).2

/-- a transaction connection is marked as finished once it is outside -/
theorem concluded (h : Custody own e w) {finished : Bool} (there : (n, ⟨some c, finished⟩) ∈ e.handles)
    (outside : c ∉ w.inside) : Custody own { e with handles := reset n ⟨some c, true⟩ e.handles } w where
  idleOnce := h.idleOnce
  idleKnown := h.idleKnown
  lentKnown := h.lentKnown
  apart := h.apart
  numbered := (fst_reset ..).symm ▸ h.numbered
  numbers p hp := by
    rcases mem_reset hp with rfl | ⟨_, hp⟩
    · exact h.numbers (n, ⟨some c, finished⟩) there
    · exact h.numbers p hp
  held k x f hx := by
    rcases mem_reset hx with same | ⟨_, hx⟩
    · cases same
      exact h.held n c finished there
    · exact h.held k x f hx
  heldOnce k k' x f f' hx hx' := by
    rcases mem_reset hx with same | ⟨_, hx⟩ <;> rcases mem_reset hx' with same' | ⟨_, hx'⟩
    · cases same
      cases same'
      rfl
    · cases same
      exact h.heldOnce n k' c finished f' there hx'
    · cases same'
      exact h.heldOnce k n c f finished hx there
    · exact h.heldOnce k k' x f f' hx hx'
  ownOnce := h.ownOnce
  ownLent := h.ownLent
  accounted x hx := by
    refine (h.accounted x hx).imp id fun ⟨k, held⟩ => ⟨k, mem_reset_of_ne (fun here => ?_) held⟩
    obtain rfl : k = n := here
    cases h.handle_eq held there
    exact outside hx

/-- the connection is taken out of a transaction connection -/
theorem vacated (h : Custody own e w) {finished : Bool} (there : (n, ⟨some c, finished⟩) ∈ e.handles) :
    Custody (c :: own) { e with handles := reset n ⟨none, finished⟩ e.handles } w where
  idleOnce := h.idleOnce
  idleKnown := h.idleKnown
  lentKnown := h.lentKnown
  apart := h.apart
  numbered := (fst_reset ..).symm ▸ h.numbered
  numbers p hp := by
    rcases mem_reset hp with rfl | ⟨_, hp⟩
    · exact h.numbers (n, ⟨some c, finished⟩) there
    · exact h.numbers p hp
  held k x f hx := by
    rcases mem_reset hx with same | ⟨other, hx⟩
    · cases same
    · obtain ⟨lent, free⟩ := h.held k x f hx
      refine ⟨lent, fun mem => ?_⟩
      rcases List.mem_cons.mp mem with rfl | mem
      · exact other (h.heldOnce k n x f finished hx there)
      · exact free mem
  heldOnce k k' x f f' hx hx' := by
    rcases mem_reset hx with same | ⟨_, hx⟩
    · cases same
    · rcases mem_reset hx' with same' | ⟨_, hx'⟩
      · cases same'
      · exact h.heldOnce k k' x f f' hx hx'
  ownOnce := List.nodup_cons.mpr ⟨(h.held n c finished there).2, h.ownOnce⟩
  ownLent x hx := by
    rcases List.mem_cons.mp hx with rfl | hx
    · exact (h.held n x finished there).1
    · exact h.ownLent x hx
  accounted x hx := by
    rcases h.accounted x hx with mem | ⟨k, held⟩
    · exact .inl (List.mem_cons_of_mem c mem)
    · by_cases here : k = n
      · subst here
        cases h.handle_eq held there
        exact .inl List.mem_cons_self
      · exact .inr ⟨k, mem_reset_of_ne here held⟩

theorem commit (h : Custody own e w) : s.watch.Holds (Engine.commit n).run (fun _ e' w' => Custody own e' w') e w := by
  refine h.onHandle fun c finished there => ?_
  rw [Monitor.holds_run_bind]
  refine Setting.holds_commit fun result => ?_
  cases result with
  | ok u => exact (h.left c).concluded there fun mem => (mem_left.mp mem).2 rfl
  | error halt => exact h.left c

theorem rollback (h : Custody own e w) :
    s.watch.Holds (Engine.rollback n).run (fun _ e' w' => Custody own e' w') e w := by
  refine h.onHandle fun c finished there => ?_
  rw [Monitor.holds_run_bind]
  refine Setting.holds_rollback ?_ (fun _ => h) fun _ => h
  exact (h.left c).concluded there fun mem => (mem_left.mp mem).2 rfl

/-- whether a transaction connection holds no connection any more -/
def Vacant (n : Nat) (e : Engine) : Prop := ∀ c finished, (n, ⟨some c, finished⟩) ∉ e.handles

theorem vacate (h : Custody own e w) :
    s.watch.Holds (Engine.vacate n) (fun taken e' w' => w' = w ∧ Vacant n e' ∧ match taken with
      | some (c, finished) => Custody (c :: own) e' w' ∧ (finished = true → c ∉ w'.inside)
      | none => Custody own e' w') e w := by
  rw [Engine.vacate, Monitor.holds_bind, Monitor.holds_get]
  split
  · next c finished found =>
    have there := Keyed.mem_of_lookup found
    refine ⟨rfl, fun x f mem => ?_, h.vacated there, fun done => ?_⟩
    · rcases mem_reset mem with same | ⟨other, _⟩
      · cases same
      · exact other rfl
    · subst done
      exact h.finished_outside there
  · next empty =>
    refine ⟨rfl, fun x f mem => ?_, h⟩
    cases found : e.handles.lookup n with
    | none => exact absurd (List.lookup_eq_none_iff.mp found _ mem) (by simp)
    | some other =>
      cases h.handle_eq (Keyed.mem_of_lookup found) mem
      exact empty x f found

theorem release (h : Custody own e w) :
    s.watch.Holds (Engine.release n) (fun _ e' w' => Custody own e' w' ∧ Vacant n e') e w := by
  rw [Engine.release, Monitor.holds_bind]
  refine h.vacate.mono ?_
  rintro taken e₁ w₁ ⟨rfl, vacant, custody⟩
  match taken with
  | none => exact ⟨custody, vacant⟩
  | some (c, true) =>
    refine (giveBack (.inl ⟨custody.1, custody.2 rfl⟩)).mono ?_
    rintro _ e₂ w₂ ⟨custody, same, _⟩
    exact ⟨custody, fun x f mem => vacant x f (same ▸ mem)⟩
  | some (c, false) =>
    refine custody.1.shutOwn.mono ?_
    rintro _ e₂ w₂ ⟨custody, _, same, _⟩
    exact ⟨custody, fun x f mem => vacant x f (same ▸ mem)⟩

theorem discard (h : Custody own e w) :
    s.watch.Holds (Engine.discard n) (fun _ e' w' => Custody own e' w') e w := by
  rw [Engine.discard, Monitor.holds_bind]
  refine h.vacate.mono ?_
  rintro taken e₁ w₁ ⟨rfl, _, custody⟩
  match taken with
  | none => exact custody
  | some (c, finished) =>
    refine custody.1.shutOwn.mono ?_
    rintro _ e₂ w₂ ⟨custody, _⟩
    exact custody

theorem forget (h : Custody own e w) : s.watch.Holds (Engine.forget n) (fun _ e' w' => Custody own e' w') e w := by
  rw [Engine.forget, Monitor.holds_bind]
  refine h.release.mono ?_
  rintro _ e' w' ⟨custody, vacant⟩
  have fewer : (e'.handles.filter fun p => p.1 ≠ n).Sublist e'.handles := List.filter_sublist
  exact {
    idleOnce := custody.idleOnce
    idleKnown := custody.idleKnown
    lentKnown := custody.lentKnown
    apart := custody.apart
    numbered := (fewer.map Prod.fst).nodup custody.numbered
    numbers := fun p hp => custody.numbers p (fewer.subset hp)
    held := fun k x f hx => custody.held k x f (fewer.subset hx)
    heldOnce := fun k k' x f f' hx hx' => custody.heldOnce k k' x f f' (fewer.subset hx) (fewer.subset hx')
    ownOnce := custody.ownOnce
    ownLent := custody.ownLent
    accounted := fun x hx => by
      refine (custody.accounted x hx).imp id fun ⟨k, held⟩ => ⟨k, List.mem_filter.mpr ⟨held, ?_⟩⟩
      have other : k ≠ n := by
        rintro rfl
        exact vacant x false held
      simpa using other }

/-! ## Opening and closing -/

/-- the pool is filled, and what was taken for that is given back -/
theorem fill {taken : List Nat} (count : Nat) (h : Custody taken e w) (outside : ∀ c ∈ taken, c ∉ w.inside) :
    s.watch.Holds (Engine.fill taken count) (fun _ e' w' => Custody [] e' w') e w := by
  induction count generalizing taken e w with
  | zero =>
    rw [Engine.fill, Monitor.holds_bind]
    exact giveBackAll h outside
  | succ count ih =>
    rw [Engine.fill, Monitor.holds_bind]
    refine h.takeConnection.mono ?_
    rintro result e₁ w₁ ⟨same, custody⟩
    cases result with
    | ok c =>
      refine ih (custody.1.perm (List.perm_append_singleton c taken).symm) fun x hx => ?_
      rcases List.mem_append.mp hx with hx | hx
      · exact same ▸ outside x hx
      · exact List.mem_singleton.mp hx ▸ custody.2
    | error halt =>
      refine Monitor.holds_bind.mpr ((giveBackAll custody fun x hx => same ▸ outside x hx).mono ?_)
      intro _ e₂ w₂ custody
      exact custody

/-- a connection that comes, runs a statement and goes leaves the others alone -/
theorem passedBy {α : Type} (h : Custody own e w) (c : Nat) (command : Option Command) (reply : Awaited α) :
    Custody own e ((Watch.ran { w with known := c :: w.known } c command reply).left c) := by
  refine h.onward (fun x hx => ?_) fun x hx => ?_
  · rw [Watch.left, Watch.ran_known]
    exact List.mem_cons_of_mem c hx
  · obtain ⟨inside, other⟩ := mem_left.mp hx
    exact Watch.mem_of_mem_ran (w := { w with known := c :: w.known }) inside other

/-- a connection of its own for one statement is closed again -/
theorem administer (h : Custody own e w) (action text : String) :
    s.watch.Holds (Engine.administer action text).run (fun _ e' w' => Custody own e' w') e w := by
  rw [Engine.administer, Monitor.holds_run_get_bind, Monitor.holds_run_lift_bind, Setting.holds_ask]
  intro answer _
  refine Monitor.holds_run_bind.mpr ((Monitor.holds_settled answer).mpr ?_)
  match answer with
  | .arrived (.error f) => exact h
  | .dropped => exact h
  | .arrived (.ok c) =>
    simp only [Awaited.result]
    rw [Monitor.holds_run_lift_bind, Setting.holds_ask]
    intro reply _
    refine Monitor.holds_run_lift_bind.mpr (Setting.holds_ask.mpr fun _ _ => ?_)
    have custody := h.passedBy c (s.commands.of text) (α := Unit) reply
    match reply with
    | .arrived (.ok ()) => exact custody
    | .arrived (.error f) => exact custody
    | .dropped => exact custody

theorem createDatabase (h : Custody own e w) :
    s.watch.Holds Engine.createDatabase.run (fun _ e' w' => Custody own e' w') e w := by
  rw [Engine.createDatabase, Monitor.holds_run_get_bind]
  exact h.administer _ _

theorem fillOrCreate (h : Custody [] e w) :
    s.watch.Holds Engine.fillOrCreate.run (fun _ e' w' => Custody [] e' w') e w := by
  have unlent : ∀ c ∈ ([] : List Nat), c ∉ w.inside := fun c hc => absurd hc List.not_mem_nil
  rw [Engine.fillOrCreate, Monitor.holds_run_get_bind, Monitor.holds_run_lift_bind]
  refine (h.fill e.config.minSize unlent).mono ?_
  intro result e₁ w₁ custody
  match result with
  | .ok () => exact custody
  | .error (.failed f) =>
    simp only
    split
    · rw [Monitor.holds_run_bind]
      refine custody.createDatabase.mono ?_
      intro result e₂ w₂ custody
      match result with
      | .error halt => exact custody
      | .ok () =>
        simp only
        rw [Monitor.holds_run_lift_bind]
        refine (custody.fill e.config.minSize fun c hc => absurd hc List.not_mem_nil).mono ?_
        intro result e₃ w₃ custody
        match result with
        | .ok () => exact custody
        | .error halt => exact custody
    · exact custody
  | .error .timedOut => exact custody
  | .error .dropped => exact custody

theorem start (h : Custody [] e w) : s.watch.Holds Engine.start.run (fun _ e' w' => Custody [] e' w') e w := by
  rw [Engine.start, Monitor.holds_run_get_bind]
  simp only
  split
  · exact h
  · split
    · exact h
    · rw [Monitor.holds_run_bind, Monitor.holds_attempt]
      refine h.fillOrCreate.mono ?_
      intro result e₁ w₁ custody
      match result with
      | .ok () => exact custody.withOpen true e₁.closed
      | .error halt =>
        simp only
        rw [Monitor.holds_run_get_bind, Monitor.holds_run_lift_bind]
        refine (custody.shutAll fun c hc => custody.apart c hc).mono ?_
        rintro _ e₂ w₂ ⟨custody, _⟩
        exact custody

theorem discardAll {handles : List (Nat × Handle)} (h : Custody own e w) :
    s.watch.Holds (Engine.discardAll handles) (fun _ e' w' => Custody own e' w') e w := by
  induction handles generalizing e w with
  | nil => exact h
  | cons p rest ih =>
    rw [Engine.discardAll, Monitor.holds_bind]
    exact h.discard.mono fun _ e' w' custody => ih custody

theorem cancelAll {cs : List Nat} (h : Custody own e w) :
    s.watch.Holds (Engine.cancelAll cs) (fun _ e' w' => Custody own e' w') e w := by
  induction cs generalizing e w with
  | nil => exact h
  | cons c rest ih =>
    rw [Engine.cancelAll]
    exact Monitor.holds_bind.mpr fun _ _ => ih h

theorem close (h : Custody own e w) : s.watch.Holds Engine.close (fun _ e' w' => Custody own e' w') e w := by
  rw [Engine.close, Monitor.holds_bind, Monitor.holds_get, Monitor.holds_bind, Monitor.holds_set]
  have closing : Custody own { e with closed := true, isOpen := false } w := h.withOpen false true
  split
  · rw [Monitor.holds_bind]
    refine (closing.shutAll fun c hc => h.apart c hc).mono ?_
    rintro _ e₁ w₁ ⟨custody, _⟩
    rw [Monitor.holds_bind, Monitor.holds_get, Monitor.holds_bind]
    refine custody.discardAll.mono ?_
    intro _ e₂ w₂ custody
    rw [Monitor.holds_bind, Monitor.holds_get]
    exact custody.cancelAll
  · exact closing

theorem deleteDatabase (h : Custody own e w) :
    s.watch.Holds Engine.deleteDatabase.run (fun _ e' w' => Custody own e' w') e w := by
  rw [Engine.deleteDatabase, Monitor.holds_run_lift_bind]
  refine h.close.mono ?_
  intro _ e' w' custody
  rw [Monitor.holds_run_get_bind]
  exact custody.administer _ _

end Custody

end Tabula.Postgres
