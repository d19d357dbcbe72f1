import Tabula.Postgres.Engine.Pool
import Tabula.Proofs.Postgres.Watch
import Mathlib.Data.List.Nodup
/-!
# Who holds a connection

Every connection of a pool is in one place: idle, held by an operation, or held for a transaction.  Only those that are
held may be inside a transaction, and those of finished transactions are not.
-/

namespace Tabula.Postgres

open Engine Dialogue

variable {s : Setting} {own : List Nat} {e : Engine} {w : Watch} {c : Nat}

/-- the places of the connections of an engine while operations hold those in `own` -/
structure Custody (own : List Nat) (e : Engine) (w : Watch) : Prop where
  idleOnce : e.idle.Nodup
  idleKnown : ∀ c ∈ e.idle, c ∈ w.known
  lentKnown : ∀ c ∈ e.lent, c ∈ w.known
  apart : ∀ c ∈ e.idle, c ∉ e.lent
  numbered : (e.handles.map Prod.fst).Nodup
  numbers : ∀ h ∈ e.handles, h.1 < e.nextHandle
  held : ∀ n c finished, (n, ⟨some c, finished⟩) ∈ e.handles → c ∈ e.lent ∧ c ∉ own
  heldOnce : ∀ n n' c finished finished', (n, ⟨some c, finished⟩) ∈ e.handles →
    (n', ⟨some c, finished'⟩) ∈ e.handles → n = n'
  ownOnce : own.Nodup
  ownLent : ∀ c ∈ own, c ∈ e.lent
  /-- a connection inside a transaction belongs to an operation or to a transaction that is not finished -/
  accounted : ∀ c ∈ w.inside, c ∈ own ∨ ∃ n, (n, ⟨some c, false⟩) ∈ e.handles

namespace Custody

theorem lent_of_inside (h : Custody own e w) (inside : c ∈ w.inside) : c ∈ e.lent := by
  rcases h.accounted c inside with hc | ⟨n, hc⟩
  · exact h.ownLent c hc
  · exact (h.held n c false hc).1

/-- **Idle connections are outside transactions.** -/
theorem outside_of_idle (h : Custody own e w) (idle : c ∈ e.idle) : c ∉ w.inside :=
  fun inside => h.apart c idle (h.lent_of_inside inside)

theorem outside_of_unknown (h : Custody own e w) (unknown : c ∉ w.known) : c ∉ w.inside :=
  fun inside => unknown (h.lentKnown c (h.lent_of_inside inside))

/-- the connection of a finished transaction is outside -/
theorem finished_outside (h : Custody own e w) {n : Nat} (held : (n, ⟨some c, true⟩) ∈ e.handles) : c ∉ w.inside := by
  intro inside
  rcases h.accounted c inside with hc | ⟨n', hc⟩
  · exact (h.held n c true held).2 hc
  · obtain rfl : n = n' := h.heldOnce n n' c true false held hc
    have same : (n, (⟨some c, true⟩ : Handle)) = (n, ⟨some c, false⟩) :=
      List.inj_on_of_nodup_map h.numbered held hc rfl
    cases same

theorem perm {own' : List Nat} (h : Custody own e w) (p : own.Perm own') : Custody own' e w where
  idleOnce := h.idleOnce
  idleKnown := h.idleKnown
  lentKnown := h.lentKnown
  apart := h.apart
  numbered := h.numbered
  numbers := h.numbers
  held n c finished hc := ⟨(h.held n c finished hc).1, fun mem => (h.held n c finished hc).2 (p.mem_iff.mpr mem)⟩
  heldOnce := h.heldOnce
  ownOnce := p.nodup_iff.mp h.ownOnce
  ownLent c hc := h.ownLent c (p.mem_iff.mpr hc)
  accounted c hc := (h.accounted c hc).imp p.mem_iff.mp id

/-- prepared statements do not matter -/
theorem withPrepared (h : Custody own e w) (known : List ((Nat × String) × Prepared)) :
    Custody own { e with prepared := known } w :=
  ⟨h.idleOnce, h.idleKnown, h.lentKnown, h.apart, h.numbered, h.numbers, h.held, h.heldOnce, h.ownOnce, h.ownLent,
    h.accounted⟩

/-- nor does it matter whether the engine is open -/
theorem withOpen (h : Custody own e w) (isOpen closed : Bool) :
    Custody own { e with isOpen, closed } w :=
  ⟨h.idleOnce, h.idleKnown, h.lentKnown, h.apart, h.numbered, h.numbers, h.held, h.heldOnce, h.ownOnce, h.ownLent,
    h.accounted⟩

/-- more connections known, fewer inside a transaction -/
theorem onward (h : Custody own e w) {w' : Watch} (known : ∀ x ∈ w.known, x ∈ w'.known)
    (inside : ∀ x ∈ w'.inside, x ∈ w.inside) : Custody own e w' where
  idleOnce := h.idleOnce
  idleKnown c hc := known c (h.idleKnown c hc)
  lentKnown c hc := known c (h.lentKnown c hc)
  apart := h.apart
  numbered := h.numbered
  numbers := h.numbers
  held := h.held
  heldOnce := h.heldOnce
  ownOnce := h.ownOnce
  ownLent := h.ownLent
  accounted c hc := h.accounted c (inside c hc)

theorem mem_left {x : Nat} : x ∈ (w.left c).inside ↔ x ∈ w.inside ∧ x ≠ c := by
  simp [Watch.left]

/-- a connection leaves its transaction -/
theorem left (h : Custody own e w) (c : Nat) : Custody own e (w.left c) :=
  h.onward (fun _ hx => hx) fun _ hx => (mem_left.mp hx).1

/-- the connection of an operation enters a transaction -/
theorem entered (h : Custody own e w) (mem : c ∈ own) : Custody own e (w.entered c) where
  idleOnce := h.idleOnce
  idleKnown := h.idleKnown
  lentKnown := h.lentKnown
  apart := h.apart
  numbered := h.numbered
  numbers := h.numbers
  held := h.held
  heldOnce := h.heldOnce
  ownOnce := h.ownOnce
  ownLent := h.ownLent
  accounted x hx := by
    rcases List.mem_cons.mp hx with rfl | hx
    · exact .inl mem
    · exact h.accounted x hx

/-! ## Closing connections -/

theorem holds_shut {p : Unit → Engine → Watch → Prop} : s.watch.Holds (Engine.shut c) p e w ↔
    p () { e with
      idle := e.idle.filter (· ≠ c)
      lent := e.lent.filter (· ≠ c)
      prepared := e.prepared.filter fun p => p.1.1 ≠ c } (w.left c) := by
  constructor
  · intro h
    exact h () ⟨trivial, fun _ _ left => (nomatch left)⟩
  · intro h answer _
    exact h

/-- a connection that is no transaction's is closed -/
theorem shut (h : Custody own e w) (unheld : ∀ n finished, (n, ⟨some c, finished⟩) ∉ e.handles) :
    s.watch.Holds (Engine.shut c) (fun _ e' w' => Custody (own.filter (· ≠ c)) e' w' ∧ c ∉ e'.lent ∧
      e'.handles = e.handles ∧ w' = w.left c ∧ (∀ x, x ∉ e.lent → x ∉ e'.lent)) e w := by
  rw [holds_shut]
  refine ⟨?_, by simp, rfl, rfl, fun x hx => ?_⟩
  · exact {
      idleOnce := h.idleOnce.filter _
      idleKnown := fun x hx => h.idleKnown x (List.mem_of_mem_filter hx)
      lentKnown := fun x hx => h.lentKnown x (List.mem_of_mem_filter hx)
      apart := fun x hx hl => h.apart x (List.mem_of_mem_filter hx) (List.mem_of_mem_filter hl)
      numbered := h.numbered
      numbers := h.numbers
      held := fun n x finished hx => by
        have other : x ≠ c := by
          rintro rfl
          exact unheld n finished hx
        obtain ⟨lent, free⟩ := h.held n x finished hx
        exact ⟨List.mem_filter.mpr ⟨lent, by simpa using other⟩, fun mem => free (List.mem_of_mem_filter mem)⟩
      heldOnce := h.heldOnce
      ownOnce := h.ownOnce.filter _
      ownLent := fun x hx => by
        obtain ⟨mem, other⟩ := List.mem_filter.mp hx
        exact List.mem_filter.mpr ⟨h.ownLent x mem, other⟩
      accounted := fun x hx => by
        obtain ⟨inside, other⟩ := mem_left.mp hx
        exact (h.accounted x inside).imp (fun mem => List.mem_filter.mpr ⟨mem, by simpa using other⟩) id }
  · exact fun mem => hx (List.mem_of_mem_filter mem)

/-- a connection of an operation is no transaction's -/
theorem unheld_of_own (h : Custody own e w) (mem : c ∈ own) : ∀ n finished, (n, ⟨some c, finished⟩) ∉ e.handles :=
  fun n finished held => (h.held n c finished held).2 mem

theorem filter_own (h : Custody (c :: own) e w) : (c :: own).filter (· ≠ c) = own := by
  have once : c ∉ own := (List.nodup_cons.mp h.ownOnce).1
  rw [List.filter_cons_of_neg (by simp)]
  exact List.filter_eq_self.mpr fun x hx => by simpa using fun same : x = c => once (same ▸ hx)

/-- an operation closes its connection -/
theorem shutOwn (h : Custody (c :: own) e w) :
    s.watch.Holds (Engine.shut c) (fun _ e' w' => Custody own e' w' ∧ c ∉ e'.lent ∧ e'.handles = e.handles ∧
      w' = w.left c) e w := by
  refine (h.shut (h.unheld_of_own List.mem_cons_self)).mono ?_
  rintro _ e' w' ⟨custody, gone, handles, left, _⟩
  exact ⟨h.filter_own ▸ custody, gone, handles, left⟩

/-- connections that nobody uses are closed -/
theorem shutAll {cs : List Nat} (h : Custody own e w) (unused : ∀ c ∈ cs, c ∉ e.lent) :
    s.watch.Holds (Engine.shutAll cs) (fun _ e' w' => Custody own e' w' ∧ e'.handles = e.handles) e w := by
  induction cs generalizing e w with
  | nil => exact ⟨h, rfl⟩
  | cons c rest ih =>
    have free : c ∉ e.lent := unused c List.mem_cons_self
    have unheld : ∀ n finished, (n, ⟨some c, finished⟩) ∉ e.handles := fun n finished held =>
      free (h.held n c finished held).1
    have other : own.filter (· ≠ c) = own :=
      List.filter_eq_self.mpr fun x hx => by simpa using fun same : x = c => free (same ▸ h.ownLent x hx)
    rw [Engine.shutAll, Monitor.holds_bind]
    refine (h.shut unheld).mono ?_
    rintro _ e' w' ⟨custody, _, handles, _, fewer⟩
    rw [other] at custody
    refine (ih custody fun x hx => fewer x (unused x (List.mem_cons_of_mem _ hx))).mono ?_
    rintro _ e'' w'' ⟨custody, same⟩
    exact ⟨custody, same.trans handles⟩

/-! ## Taking connections back -/

/-- a connection that an operation is done with: still its own and outside transactions, or closed -/
def Returned (own : List Nat) (c : Nat) (e : Engine) (w : Watch) : Prop :=
  (Custody (c :: own) e w ∧ c ∉ w.inside) ∨ (Custody own e w ∧ c ∉ e.lent)

theorem idleAgain (h : Custody (c :: own) e w) (outside : c ∉ w.inside) :
    Custody own { e with lent := e.lent.filter (· ≠ c), idle := e.idle ++ [c] } w := by
  have lent : c ∈ e.lent := h.ownLent c List.mem_cons_self
  have once : c ∉ own := (List.nodup_cons.mp h.ownOnce).1
  have stays : ∀ x ∈ e.lent, x ≠ c → x ∈ e.lent.filter (· ≠ c) := fun x hx other =>
    List.mem_filter.mpr ⟨hx, by simpa using other⟩
  exact {
    idleOnce := by
      refine List.nodup_append.mpr ⟨h.idleOnce, List.nodup_singleton c, fun x hx y hy same => ?_⟩
      obtain rfl := List.mem_singleton.mp hy
      exact h.apart x hx (same ▸ lent)
    idleKnown := fun x hx => by
      rcases List.mem_append.mp hx with hx | hx
      · exact h.idleKnown x hx
      · exact h.lentKnown x (List.mem_singleton.mp hx ▸ lent)
    lentKnown := fun x hx => h.lentKnown x (List.mem_of_mem_filter hx)
    apart := fun x hx hl => by
      obtain ⟨there, other⟩ := List.mem_filter.mp hl
      rcases List.mem_append.mp hx with hx | hx
      · exact h.apart x hx there
      · exact absurd (List.mem_singleton.mp hx) (by simpa using other)
    numbered := h.numbered
    numbers := h.numbers
    held := fun n x finished hx => by
      obtain ⟨there, free⟩ := h.held n x finished hx
      exact ⟨stays x there fun same => free (same ▸ List.mem_cons_self),
        fun mem => free (List.mem_cons_of_mem c mem)⟩
    heldOnce := h.heldOnce
    ownOnce := (List.nodup_cons.mp h.ownOnce).2
    ownLent := fun x hx => stays x (h.ownLent x (List.mem_cons_of_mem c hx)) fun same => once (same ▸ hx)
    accounted := fun x hx => by
      rcases h.accounted x hx with mem | held
      · rcases List.mem_cons.mp mem with rfl | mem
        · exact absurd hx outside
        · exact .inl mem
      · exact .inr held }

theorem giveBack (h : Returned own c e w) :
    s.watch.Holds (Engine.giveBack c) (fun _ e' w' => Custody own e' w' ∧ e'.handles = e.handles ∧
      ∀ x ∈ w'.inside, x ∈ w.inside) e w := by
  rw [Engine.giveBack, Monitor.holds_bind, Monitor.holds_get]
  rcases h with ⟨mine, outside⟩ | ⟨custody, gone⟩
  · rw [if_pos (List.contains_iff_mem.mpr (mine.ownLent c List.mem_cons_self))]
    split
    · refine mine.shutOwn.mono ?_
      rintro _ e' w' ⟨custody, _, handles, rfl⟩
      exact ⟨custody, handles, fun x hx => (mem_left.mp hx).1⟩
    · exact ⟨mine.idleAgain outside, rfl, fun x hx => hx⟩
  · rw [if_neg (by simpa using gone)]
    exact ⟨custody, rfl, fun x hx => hx⟩

theorem giveBackAll {cs : List Nat} (h : Custody cs e w) (outside : ∀ c ∈ cs, c ∉ w.inside) :
    s.watch.Holds (Engine.giveBackAll cs) (fun _ e' w' => Custody [] e' w') e w := by
  induction cs generalizing e w with
  | nil => exact h
  | cons c rest ih =>
    rw [Engine.giveBackAll, Monitor.holds_bind]
    refine (giveBack (.inl ⟨h, outside c List.mem_cons_self⟩)).mono ?_
    rintro _ e' w' ⟨custody, _, fewer⟩
    exact ih custody fun x hx inside => outside x (List.mem_cons_of_mem c hx) (fewer x inside)

/-! ## Lending connections -/

/-- an unused connection is lent -/
theorem lend {rest known : List Nat} (h : Custody own e w) (unused : c ∉ e.lent) (fewer : rest.Sublist e.idle)
    (other : c ∉ rest) (knows : ∀ x ∈ c :: w.known, x ∈ known) :
    Custody (c :: own) { e with idle := rest, lent := e.lent ++ [c] } { w with known := known } where
  idleOnce := fewer.nodup h.idleOnce
  idleKnown x hx := knows x (List.mem_cons_of_mem c (h.idleKnown x (fewer.subset hx)))
  lentKnown x hx := by
    rcases List.mem_append.mp hx with hx | hx
    · exact knows x (List.mem_cons_of_mem c (h.lentKnown x hx))
    · exact knows x (List.mem_cons.mpr (.inl (List.mem_singleton.mp hx)))
  apart x hx hl := by
    rcases List.mem_append.mp hl with hl | hl
    · exact h.apart x (fewer.subset hx) hl
    · exact other (List.mem_singleton.mp hl ▸ hx)
  numbered := h.numbered
  numbers := h.numbers
  held n x finished hx := by
    obtain ⟨there, free⟩ := h.held n x finished hx
    refine ⟨List.mem_append_left _ there, fun mem => ?_⟩
    rcases List.mem_cons.mp mem with rfl | mem
    · exact unused there
    · exact free mem
  heldOnce := h.heldOnce
  ownOnce := List.nodup_cons.mpr ⟨fun mem => unused (h.ownLent c mem), h.ownOnce⟩
  ownLent x hx := by
    rcases List.mem_cons.mp hx with rfl | hx
    · exact List.mem_append_right _ (List.mem_singleton.mpr rfl)
    · exact List.mem_append_left _ (h.ownLent x hx)
  accounted x hx := (h.accounted x hx).imp (List.mem_cons_of_mem c) id

/-- idle connections are forgotten -/
theorem forgotten {rest : List Nat} (h : Custody own e w) (fewer : rest.Sublist e.idle) :
    Custody own { e with idle := rest } w where
  idleOnce := fewer.nodup h.idleOnce
  idleKnown x hx := h.idleKnown x (fewer.subset hx)
  lentKnown := h.lentKnown
  apart x hx := h.apart x (fewer.subset hx)
  numbered := h.numbered
  numbers := h.numbers
  held := h.held
  heldOnce := h.heldOnce
  ownOnce := h.ownOnce
  ownLent := h.ownLent
  accounted := h.accounted

theorem takeIdle {cs : List Nat} (h : Custody own e w) (last : cs <:+ e.idle) :
    s.watch.Holds (Engine.takeIdle cs) (fun taken e' w' => w' = w ∧ match taken with
      | some c => Custody (c :: own) e' w' ∧ c ∉ w'.inside
      | none => Custody own e' w') e w := by
  induction cs generalizing e with
  | nil => exact ⟨rfl, h.forgotten (List.nil_sublist _)⟩
  | cons c rest ih =>
    have idle : c ∈ e.idle := last.subset List.mem_cons_self
    have once : (c :: rest).Nodup := last.sublist.nodup h.idleOnce
    have behind : rest <:+ e.idle := (List.suffix_cons c rest).trans last
    rw [Engine.takeIdle]
    refine Monitor.holds_bind.mpr fun (alive : Bool) _ => ?_
    cases alive with
    | true =>
      have lent := h.lend (h.apart c idle) behind.sublist (List.nodup_cons.mp once).1 fun x hx => by
        rcases List.mem_cons.mp hx with rfl | hx
        · exact h.idleKnown x idle
        · exact hx
      exact ⟨rfl, lent, h.outside_of_idle idle⟩
    | false => exact ih (h.withPrepared _) behind

/-- what comes of asking the pool for a connection -/
def Taken (own inside : List Nat) {β : Type} (taken : Except β Nat) (e : Engine) (w : Watch) : Prop :=
  w.inside = inside ∧ match taken with
    | .ok c => Custody (c :: own) e w ∧ c ∉ w.inside
    | .error _ => Custody own e w

theorem takeConnection (h : Custody own e w) :
    s.watch.Holds Engine.takeConnection (Taken own w.inside) e w := by
  rw [Engine.takeConnection, Monitor.holds_bind, Monitor.holds_get, Monitor.holds_bind]
  refine (h.takeIdle (List.suffix_refl _)).mono ?_
  rintro taken e' w' ⟨rfl, custody⟩
  cases taken with
  | some c => exact ⟨rfl, custody⟩
  | none =>
    simp only
    rw [Monitor.holds_bind, Monitor.holds_get]
    split
    · rw [Monitor.holds_bind, Setting.holds_ask]
      intro answer admitted
      match answer with
      | .arrived (.ok c) =>
        have unknown : c ∉ w'.known := admitted.1 c rfl
        refine ⟨rfl, ?_, custody.outside_of_unknown unknown⟩
        exact custody.lend (fun lent => unknown (custody.lentKnown c lent)) (List.Sublist.refl _)
          (fun idle => unknown (custody.idleKnown c idle)) fun x hx => hx
      | .arrived (.error f) => exact ⟨rfl, custody⟩
      | .dropped => exact ⟨rfl, custody⟩
    · rw [Monitor.holds_bind, Setting.holds_ask]
      intro answer _
      match answer with
      | .arrived _ => exact ⟨rfl, custody⟩
      | .dropped => exact ⟨rfl, custody⟩

theorem checkOut (h : Custody own e w) :
    s.watch.Holds Engine.checkOut.run (Taken own w.inside) e w := by
  rw [Engine.checkOut, Monitor.holds_run_get_bind]
  simp only
  split
  · exact ⟨rfl, h⟩
  · split
    · exact ⟨rfl, h⟩
    · rw [Monitor.holds_run_lift_bind]
      refine h.takeConnection.mono ?_
      rintro taken e' w' ⟨same, custody⟩
      match taken with
      | .ok c => exact ⟨same, custody⟩
      | .error (.failed f) => exact ⟨same, custody⟩
      | .error .timedOut => exact ⟨same, custody⟩
      | .error .dropped => exact ⟨same, custody⟩

/-- an operation on a connection of the pool, if it leaves its connection fit to be returned -/
theorem onConnection {α : Type} {op : Nat → Operation α} (h : Custody own e w)
    (fit : ∀ c e w, Custody (c :: own) e w → c ∉ w.inside →
      s.watch.Holds (op c).run (fun _ e' w' => Returned own c e' w') e w) :
    s.watch.Holds (Engine.onConnection op).run (fun _ e' w' => Custody own e' w') e w := by
  rw [Engine.onConnection, Monitor.holds_run_bind]
  refine h.checkOut.mono ?_
  rintro (halt | c) e₁ w₁ ⟨_, custody⟩
  · exact custody
  · simp only
    rw [Monitor.holds_run_bind, Monitor.holds_attempt]
    refine (fit c e₁ w₁ custody.1 custody.2).mono ?_
    intro result e₂ w₂ returned
    simp only
    rw [Monitor.holds_run_lift_bind]
    refine (giveBack returned).mono ?_
    rintro _ e₃ w₃ ⟨custody, _, _⟩
    rw [Monitor.holds_ending]
    exact custody

end Custody

end Tabula.Postgres
