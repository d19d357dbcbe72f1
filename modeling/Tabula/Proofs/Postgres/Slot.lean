import Mathlib.Data.List.Count
import Tabula.Proofs.Postgres.InOrder
import Tabula.Proofs.Postgres.Reserved
/-!
# The slot of a transaction

A transaction connection is a slot, from which the connection is taken when it is given up.  `Held` describes the engine
while the connection is in its slot and `Left` the engine afterwards.  For each there is a lemma on every operation on
the slot, and on the steps in which the engine is closed: what becomes of the connection and what is said on it.
-/

namespace Tabula.Postgres

open Engine Dialogue

namespace Engine

/-- no connection is lent any more and the idle ones are closed: how closing begins -/
def endPool : Task Unit := do
  let e ← get
  set { e with closed := true, isOpen := false }
  if e.isOpen then shutAll e.idle

/-- how closing ends when connections have not come back in time: slots are emptied, except where something runs on the
connection, and what runs is stopped -/
def terminate (busy : Nat → Bool) : Task Unit := do
  discardAll ((← get).handles.filter fun p => !busy p.1)
  cancelAll (← get).lent

/-- closing takes the two steps -/
theorem close_eq : close = (do
    let e ← get
    endPool
    if e.isOpen then terminate fun _ => false) := by
  refine StateT.ext fun e => ?_
  cases isOpen : e.isOpen with
  | false => simp [close, endPool, isOpen]
  | true => simp [close, endPool, terminate, isOpen]

/-- the connection in the slot of a transaction -/
def slot (n : Nat) (e : Engine) : Option Nat := (e.handles.lookup n).bind Handle.connection

end Engine

/-- what needs the connection of a transaction -/
inductive Demand where
  | run (job : Job)
  | commit
  | rollback

/-- what ends the transaction -/
def Demand.command? : Demand → Option String
  | run _ => none
  | commit => some "COMMIT"
  | rollback => some "ROLLBACK"

/-- the transaction is ended by a demand, and the server reports success -/
def Demand.Ends (d : Demand) (result : Except Halt Unit) (heard : List Heard) : Prop :=
  ∃ command, d.command? = some command ∧ result = .ok () ∧ heard = [.ran command [] false]

def Demand.act (n : Nat) : Demand → Act
  | run job => .held n job
  | commit => .commit n
  | rollback => .rollback n

/-- a step of closing the engine -/
inductive Closing where
  | endPool
  /-- the slots that are busy are known by their locks -/
  | terminate (busy : Nat → Bool)

def Closing.task : Closing → Task Unit
  | endPool => Engine.endPool
  | terminate busy => Engine.terminate busy

/-- what the step finds a slot to be -/
def Closing.Finds (n : Nat) (busy : Bool) : Closing → Prop
  | endPool => True
  | terminate found => found n = busy

/-- several steps, one after the other -/
def Closing.tasks : List Closing → Task Unit
  | [] => pure ()
  | step :: rest => do
    step.task
    tasks rest

/-! ## The slot and the connection -/

variable {c n k x : Nat} {f : Bool} {e e' : Engine} {l : List Heard} {t : List Reply} {α : Type} {new : Nat → Prop}

/-- the connection is in its slot, and in no other place -/
structure Held (c n : Nat) (f : Bool) (e : Engine) : Prop where
  handle : e.handles.lookup n = some ⟨some c, f⟩
  lent : c ∈ e.lent
  idle : c ∉ e.idle
  only : ∀ k f, (k, ⟨some c, f⟩) ∈ e.handles → k = n

/-- the slot is empty, and the connection at most once in the pool -/
structure Left (c n : Nat) (e : Engine) : Prop where
  slot : slot n e = none
  unheld : ∀ k f, (k, ⟨some c, f⟩) ∉ e.handles
  unlent : c ∉ e.lent
  once : e.idle.count c ≤ 1

theorem Held.slot (h : Held c n f e) : slot n e = some c := by
  rw [Engine.slot, h.handle]
  rfl

theorem lookup_reset {handles : List (Nat × Handle)} {h h' : Handle} (found : handles.lookup n = some h') :
    (Custody.reset n h handles).lookup n = some h := by
  induction handles with
  | nil => cases found
  | cons p rest ih =>
    obtain ⟨k, g⟩ := p
    by_cases here : k = n
    · subst here
      simp [Custody.reset]
    · have other : (n == k) = false := beq_eq_false_iff_ne.mpr (Ne.symm here)
      rw [List.lookup_cons, other] at found
      simpa [Custody.reset, List.lookup_cons, here, other] using ih found

theorem lookup_reset_of_ne {handles : List (Nat × Handle)} {h : Handle} (another : k ≠ n) :
    (Custody.reset k h handles).lookup n = handles.lookup n := by
  induction handles with
  | nil => rfl
  | cons p rest ih =>
    obtain ⟨i, g⟩ := p
    by_cases here : i = k
    · subst here
      have other : (n == i) = false := beq_eq_false_iff_ne.mpr (Ne.symm another)
      simpa [Custody.reset, List.lookup_cons, other] using ih
    · simp only [Custody.reset, List.map_cons, here, if_false, List.lookup_cons]
      cases n == i with
      | true => rfl
      | false => exact ih

theorem lookup_filter_self {handles : List (Nat × Handle)} : (handles.filter fun p => p.1 ≠ n).lookup n = none := by
  rw [List.lookup_eq_none_iff]
  intro p mem
  have other : p.1 ≠ n := of_decide_eq_true (List.mem_filter.mp mem).2
  exact bne_iff_ne.mpr other.symm

/-- whatever numbers the connections are given -/
theorem heard_of_run {x : Postgres.Task α} {p : α → Engine → List Heard → Prop} {a : α}
    (h : (listen c fun _ => True).Holds x p e []) (said : (x.run e).Says t (a, e')) : p a e' (hear c t) :=
  heard_of_holds h said fun _ _ _ _ => trivial

/-! ## Closing a connection -/

theorem Held.shorn (h : Held c n f e) (other : x ≠ c) : Held c n f (e.shorn x) where
  handle := h.handle
  lent := List.mem_filter.mpr ⟨h.lent, decide_eq_true other.symm⟩
  idle mem := h.idle (List.mem_of_mem_filter mem)
  only := h.only

theorem count_shorn_self : (e.shorn c).idle.count c = 0 :=
  List.count_eq_zero.mpr fun mem => of_decide_eq_true (List.mem_filter.mp mem).2 rfl

theorem count_shorn_of_ne (other : x ≠ c) : (e.shorn x).idle.count c = e.idle.count c :=
  List.count_filter (decide_eq_true other.symm)

theorem Left.shorn (h : Left c n e) (x : Nat) : Left c n (e.shorn x) where
  slot := h.slot
  unheld := h.unheld
  unlent mem := h.unlent (List.mem_of_mem_filter mem)
  once := Nat.le_trans (List.filter_sublist.count_le c) h.once

/-! ## Emptying slots -/

theorem listen_vacate {p : Option (Nat × Bool) → Engine → List Heard → Prop}
    (full : ∀ x g, e.handles.lookup k = some ⟨some x, g⟩ →
      p (some (x, g)) { e with handles := Custody.reset k ⟨none, g⟩ e.handles } l)
    (empty : slot k e = none → p none e l) : (listen c new).Holds (vacate k) p e l := by
  rw [Engine.vacate, Monitor.holds_bind, Monitor.holds_get]
  split
  · next x g found => exact full x g found
  · next other =>
    refine empty ?_
    cases found : e.handles.lookup k with
    | none => rw [slot, found]; rfl
    | some h =>
      obtain ⟨_ | x, g⟩ := h
      · rw [slot, found]; rfl
      · exact absurd found (other x g)

/-- the slot of another transaction is emptied -/
theorem Held.reset (h : Held c n f e) (another : k ≠ n) (g : Bool) :
    Held c n f { e with handles := Custody.reset k ⟨none, g⟩ e.handles } where
  handle := (lookup_reset_of_ne another).trans h.handle
  lent := h.lent
  idle := h.idle
  only i g' mem := by
    rcases Custody.mem_reset mem with same | ⟨_, mem⟩
    · cases same
    · exact h.only i g' mem

theorem Left.reset (h : Left c n e) (another : k ≠ n) (g : Bool) :
    Left c n { e with handles := Custody.reset k ⟨none, g⟩ e.handles } where
  slot := by
    rw [Engine.slot, lookup_reset_of_ne another]
    exact h.slot
  unheld i g' mem := by
    rcases Custody.mem_reset mem with same | ⟨_, mem⟩
    · cases same
    · exact h.unheld i g' mem
  unlent := h.unlent
  once := h.once

theorem Held.discardOther (h : Held c n f e) (another : k ≠ n) :
    (listen c new).Holds (Engine.discard k) (fun _ e' l' => Held c n f e' ∧ l' = l) e l := by
  rw [Engine.discard, Monitor.holds_bind]
  refine listen_vacate (fun x g found => ?_) fun _ => ⟨h, rfl⟩
  have other : x ≠ c := by
    rintro rfl
    exact another (h.only k g (Keyed.mem_of_lookup found))
  rw [listen_shut, if_neg other, List.append_nil]
  exact ⟨(h.reset another g).shorn other, rfl⟩

theorem Left.discard (h : Left c n e) :
    (listen c new).Holds (Engine.discard k)
      (fun _ e' l' => Left c n e' ∧ e'.idle.count c = e.idle.count c ∧ l' = l) e l := by
  rw [Engine.discard, Monitor.holds_bind]
  refine listen_vacate (fun x g found => ?_) fun _ => ⟨h, rfl, rfl⟩
  have another : k ≠ n := by
    rintro rfl
    have full : Engine.slot k e = some x := by
      rw [Engine.slot, found]
      rfl
    cases h.slot.symm.trans full
  have other : x ≠ c := by
    rintro rfl
    exact h.unheld k g (Keyed.mem_of_lookup found)
  rw [listen_shut, if_neg other, List.append_nil]
  exact ⟨(h.reset another g).shorn x, count_shorn_of_ne other, rfl⟩

/-- the slot is emptied and the connection lent no more -/
theorem Held.left (h : Held c n f e) (emptied : e'.handles = Custody.reset n ⟨none, f⟩ e.handles)
    (unlent : c ∉ e'.lent) (once : e'.idle.count c ≤ 1) : Left c n e' where
  slot := by
    rw [Engine.slot, emptied, lookup_reset h.handle]
    rfl
  unheld k g mem := by
    rw [emptied] at mem
    rcases Custody.mem_reset mem with same | ⟨another, mem⟩
    · cases same
    · exact another (h.only k g mem)
  unlent := unlent
  once := once

/-- what becomes of a connection that leaves its slot -/
structure Parted (c : Nat) (again : Prop) (e : Engine) (l l' : List Heard) : Prop where
  back : again → l' = l ∧ c ∈ e.idle
  closed : ¬again → l' = l ++ [.shut] ∧ c ∉ e.idle

/-- the connection is closed after its slot was emptied -/
theorem Held.shut (h : Held c n f e) : (listen c new).Holds (Engine.shut c)
    (fun _ e' l' => Left c n e' ∧ l' = l ++ [.shut] ∧ c ∉ e'.idle)
    { e with handles := Custody.reset n ⟨none, f⟩ e.handles } l := by
  rw [listen_shut, if_pos rfl]
  have unlent : c ∉ e.lent.filter (· ≠ c) := fun mem => of_decide_eq_true (List.mem_filter.mp mem).2 rfl
  have gone : (e.shorn c).idle.count c = 0 := count_shorn_self
  exact ⟨h.left rfl unlent (Nat.le_trans (Nat.le_of_eq gone) (Nat.zero_le 1)), rfl, List.count_eq_zero.mp gone⟩

/-- taking the connection out of its slot -/
theorem Held.vacate {p : Option (Nat × Bool) → Engine → List Heard → Prop} (h : Held c n f e)
    (next : p (some (c, f)) { e with handles := Custody.reset n ⟨none, f⟩ e.handles } l) :
    (listen c new).Holds (Engine.vacate n) p e l := by
  refine listen_vacate (fun x g found => ?_) fun empty => nomatch empty.symm.trans h.slot
  cases h.handle.symm.trans found
  exact next

theorem Held.discard (h : Held c n f e) : (listen c new).Holds (Engine.discard n)
    (fun _ e' l' => Left c n e' ∧ l' = l ++ [.shut] ∧ c ∉ e'.idle) e l := by
  rw [Engine.discard, Monitor.holds_bind]
  exact h.vacate h.shut

theorem Held.release (h : Held c n f e) : (listen c new).Holds (Engine.release n)
    (fun _ e' l' => Left c n e' ∧ Parted c (f = true ∧ e.closed = false) e' l l') e l := by
  rw [Engine.release, Monitor.holds_bind]
  apply h.vacate
  have closes (stays : ¬(f = true ∧ e.closed = false)) : (listen c new).Holds (Engine.shut c)
      (fun _ e' l' => Left c n e' ∧ Parted c (f = true ∧ e.closed = false) e' l l')
      { e with handles := Custody.reset n ⟨none, f⟩ e.handles } l := by
    refine h.shut.mono ?_
    rintro _ e' l' ⟨left, shut⟩
    exact ⟨left, fun back => absurd back stays, fun _ => shut⟩
  cases f with
  | false => exact closes (by simp)
  | true =>
    dsimp only
    rw [Engine.giveBack, Monitor.holds_bind, Monitor.holds_get, if_pos (List.contains_iff_mem.mpr h.lent)]
    split
    · next closed => exact closes (by simp [show e.closed = true from closed])
    · next isOpen =>
      have isOpen : e.closed = false := by simpa using isOpen
      have count : (e.idle ++ [c]).count c = 1 := by
        rw [List.count_append, List.count_eq_zero.mpr h.idle, List.count_singleton_self]
      refine ⟨h.left rfl (fun mem => ?_) (Nat.le_of_eq count), fun _ => ⟨rfl, ?_⟩, fun stays => ?_⟩
      · exact of_decide_eq_true (List.mem_filter.mp mem).2 rfl
      · exact List.mem_append_right _ (List.mem_singleton_self c)
      · exact absurd ⟨rfl, isOpen⟩ stays

theorem Left.forgotten (h : Left c n e) : Left c n { e with handles := e.handles.filter fun p => p.1 ≠ n } where
  slot := by
    rw [Engine.slot, lookup_filter_self]
    rfl
  unheld k g mem := h.unheld k g (List.mem_of_mem_filter mem)
  unlent := h.unlent
  once := h.once

theorem Held.forget (h : Held c n f e) : (listen c new).Holds (Engine.forget n)
    (fun _ e' l' => Left c n e' ∧ Parted c (f = true ∧ e.closed = false) e' l l') e l := by
  rw [Engine.forget, Monitor.holds_bind]
  refine h.release.mono ?_
  rintro _ e' l' ⟨left, parted⟩
  exact ⟨left.forgotten, parted.back, parted.closed⟩

/-! ## Closing the engine -/

theorem Held.shutAll {cs : List Nat} (h : Held c n f e) (others : ∀ x ∈ cs, x ≠ c) :
    (listen c new).Holds (Engine.shutAll cs) (fun _ e' l' => Held c n f e' ∧ l' = l) e l := by
  induction cs generalizing e l with
  | nil => exact ⟨h, rfl⟩
  | cons x rest ih =>
    obtain ⟨first, others⟩ := List.forall_mem_cons.mp others
    rw [Engine.shutAll, Monitor.holds_bind, listen_shut, if_neg first, List.append_nil]
    exact ih (h.shorn first) others

/-- what closing connections of the pool makes of one that has left its slot -/
structure Swept (c n : Nat) (e : Engine) (l : List Heard) (e' : Engine) (l' : List Heard) : Prop where
  left : Left c n e'
  heard : l' = l ∧ (c ∈ e'.idle ↔ c ∈ e.idle) ∨ l' = l ++ [.shut] ∧ c ∈ e.idle ∧ c ∉ e'.idle

theorem Left.swept (h : Left c n e') (idle : e'.idle.count c = e.idle.count c) : Swept c n e l e' l where
  left := h
  heard := by
    have positive : 0 < e'.idle.count c ↔ 0 < e.idle.count c := by rw [idle]
    rw [List.count_pos_iff, List.count_pos_iff] at positive
    exact .inl ⟨rfl, positive⟩

theorem Left.shutAll {cs : List Nat} (h : Left c n e) (once : cs.count c ≤ 1) :
    (listen c new).Holds (Engine.shutAll cs) (fun _ e' l' => Left c n e' ∧
      (c ∉ cs ∧ l' = l ∧ e'.idle.count c = e.idle.count c ∨ c ∈ cs ∧ l' = l ++ [.shut] ∧ c ∉ e'.idle)) e l := by
  induction cs generalizing e l with
  | nil => exact ⟨h, .inl ⟨List.not_mem_nil, rfl, rfl⟩⟩
  | cons x rest ih =>
    rw [Engine.shutAll, Monitor.holds_bind, listen_shut]
    by_cases here : x = c
    · subst here
      rw [List.count_cons_self] at once
      have others : x ∉ rest := List.count_eq_zero.mp (by omega)
      rw [if_pos rfl]
      refine (ih (h.shorn x) (by omega)).mono ?_
      rintro _ e' l' ⟨left, ⟨_, rfl, idle⟩ | ⟨mem, _⟩⟩
      · exact ⟨left, .inr ⟨List.mem_cons_self, rfl, List.count_eq_zero.mp (idle.trans count_shorn_self)⟩⟩
      · exact absurd mem others
    · rw [List.count_cons_of_ne here] at once
      rw [if_neg here, List.append_nil]
      refine (ih (h.shorn x) once).mono ?_
      rintro _ e' l' ⟨left, ⟨others, rfl, idle⟩ | ⟨mem, closed⟩⟩
      · refine ⟨left, .inl ⟨fun mem => ?_, rfl, idle.trans (count_shorn_of_ne here)⟩⟩
        rcases List.mem_cons.mp mem with same | mem
        · exact here same.symm
        · exact others mem
      · exact ⟨left, .inr ⟨List.mem_cons_of_mem x mem, closed⟩⟩

theorem Held.endPool (h : Held c n f e) :
    (listen c new).Holds Engine.endPool (fun _ e' l' => Held c n f e' ∧ l' = l) e l := by
  rw [Engine.endPool, Monitor.holds_bind, Monitor.holds_get, Monitor.holds_bind, Monitor.holds_set]
  have marked : Held c n f { e with closed := true, isOpen := false } := ⟨h.handle, h.lent, h.idle, h.only⟩
  split
  · refine marked.shutAll fun x idle => ?_
    rintro rfl
    exact h.idle idle
  · exact ⟨marked, rfl⟩

theorem Left.endPool (h : Left c n e) : (listen c new).Holds Engine.endPool (fun _ => Swept c n e l) e l := by
  rw [Engine.endPool, Monitor.holds_bind, Monitor.holds_get, Monitor.holds_bind, Monitor.holds_set]
  have marked : Left c n { e with closed := true, isOpen := false } := ⟨h.slot, h.unheld, h.unlent, h.once⟩
  split
  · refine (marked.shutAll h.once).mono ?_
    rintro _ e' l' ⟨left, ⟨_, rfl, idle⟩ | ⟨mem, rfl, gone⟩⟩
    · exact left.swept idle
    · exact ⟨left, .inr ⟨rfl, mem, gone⟩⟩
  · exact marked.swept rfl

/-- what is heard when closing ends is heard when the slots are emptied -/
theorem listen_terminate {found : Nat → Bool} {p : Engine → List Heard → Prop}
    (h : (listen c new).Holds (Engine.discardAll (e.handles.filter fun p => !found p.1)) (fun _ => p) e l) :
    (listen c new).Holds (Engine.terminate found) (fun _ => p) e l := by
  rw [Engine.terminate, Monitor.holds_bind, Monitor.holds_get, Monitor.holds_bind]
  refine h.mono fun _ e₁ l₁ emptied => ?_
  rw [Monitor.holds_bind, Monitor.holds_get]
  exact listen_cancelAll _ emptied

theorem Held.discardOthers {handles : List (Nat × Handle)} (h : Held c n f e) (others : ∀ p ∈ handles, p.1 ≠ n) :
    (listen c new).Holds (discardAll handles) (fun _ e' l' => Held c n f e' ∧ l' = l) e l := by
  induction handles generalizing e l with
  | nil => exact ⟨h, rfl⟩
  | cons p rest ih =>
    obtain ⟨first, others⟩ := List.forall_mem_cons.mp others
    rw [discardAll, Monitor.holds_bind]
    refine (h.discardOther first).mono ?_
    rintro _ e₁ l₁ ⟨held, rfl⟩
    exact ih held others

theorem Left.discardAll {handles : List (Nat × Handle)} (h : Left c n e) :
    (listen c new).Holds (discardAll handles)
      (fun _ e' l' => Left c n e' ∧ e'.idle.count c = e.idle.count c ∧ l' = l) e l := by
  induction handles generalizing e l with
  | nil => exact ⟨h, rfl, rfl⟩
  | cons p rest ih =>
    rw [Engine.discardAll, Monitor.holds_bind]
    refine h.discard.mono ?_
    rintro _ e₁ l₁ ⟨left, idle, rfl⟩
    refine (ih left).mono ?_
    rintro _ e₂ l₂ ⟨left, idle', rfl⟩
    exact ⟨left, idle'.trans idle, rfl⟩

theorem Held.discardAll {handles : List (Nat × Handle)} (h : Held c n f e) (mem : n ∈ handles.map Prod.fst) :
    (listen c new).Holds (discardAll handles) (fun _ e' l' => Left c n e' ∧ l' = l ++ [.shut] ∧ c ∉ e'.idle) e l := by
  induction handles generalizing e l with
  | nil => cases mem
  | cons p rest ih =>
    rw [Engine.discardAll, Monitor.holds_bind]
    by_cases here : p.1 = n
    · rw [here]
      refine h.discard.mono ?_
      rintro _ e₁ l₁ ⟨left, rfl, gone⟩
      refine left.discardAll.mono ?_
      rintro _ e₂ l₂ ⟨left, idle, rfl⟩
      exact ⟨left, rfl, List.count_eq_zero.mp (idle.trans (List.count_eq_zero.mpr gone))⟩
    · refine (h.discardOther here).mono ?_
      rintro _ e₁ l₁ ⟨held, rfl⟩
      exact ih held ((List.mem_cons.mp mem).resolve_left (Ne.symm here))

/-- what runs on the connection keeps it in its slot when the engine is closed -/
theorem Held.closing {step : Closing} (h : Held c n f e) (busy : step.Finds n true) :
    (listen c new).Holds step.task (fun _ e' l' => Held c n f e' ∧ l' = l) e l := by
  cases step with
  | endPool => exact h.endPool
  | terminate found =>
    have busy : found n = true := busy
    refine listen_terminate (h.discardOthers fun p mem => ?_)
    rintro rfl
    simpa [busy] using (List.mem_filter.mp mem).2

theorem Held.closingAll {steps : List Closing} (h : Held c n f e) (busy : ∀ step ∈ steps, step.Finds n true) :
    (listen c new).Holds (Closing.tasks steps) (fun _ e' l' => Held c n f e' ∧ l' = l) e l := by
  induction steps generalizing e l with
  | nil => exact ⟨h, rfl⟩
  | cons step rest ih =>
    obtain ⟨first, others⟩ := List.forall_mem_cons.mp busy
    rw [Closing.tasks, Monitor.holds_bind]
    refine (h.closing first).mono ?_
    rintro _ e₁ l₁ ⟨held, rfl⟩
    exact ih held others

/-- where nothing runs on it, the connection is closed in the end -/
theorem Held.terminate {found : Nat → Bool} (h : Held c n f e) (free : found n = false) :
    (listen c new).Holds (Engine.terminate found) (fun _ e' l' => Left c n e' ∧ l' = l ++ [.shut] ∧ c ∉ e'.idle) e l := by
  have mem : (n, ⟨some c, f⟩) ∈ e.handles.filter fun p => !found p.1 :=
    List.mem_filter.mpr ⟨Keyed.mem_of_lookup h.handle, by simp [free]⟩
  exact listen_terminate (h.discardAll (List.mem_map_of_mem mem))

theorem Left.closing (h : Left c n e) (step : Closing) :
    (listen c new).Holds step.task (fun _ => Swept c n e l) e l := by
  cases step with
  | endPool => exact h.endPool
  | terminate found =>
    refine listen_terminate (h.discardAll.mono ?_)
    rintro _ e₁ l₁ ⟨left, idle, rfl⟩
    exact left.swept idle

/-- it is closed once -/
theorem Swept.trans {e₁ e₂ e₃ : Engine} {l₁ l₂ l₃ : List Heard} (h : Swept c n e₁ l₁ e₂ l₂)
    (h' : Swept c n e₂ l₂ e₃ l₃) : Swept c n e₁ l₁ e₃ l₃ where
  left := h'.left
  heard := by
    rcases h.heard with ⟨rfl, same⟩ | ⟨rfl, mem, gone⟩
    · rw [← same]
      exact h'.heard
    · rcases h'.heard with ⟨rfl, same⟩ | ⟨_, mem', _⟩
      · exact .inr ⟨rfl, mem, fun mem => gone (same.mp mem)⟩
      · exact absurd mem' gone

theorem Left.closingAll (h : Left c n e) (steps : List Closing) :
    (listen c new).Holds (Closing.tasks steps) (fun _ => Swept c n e l) e l := by
  induction steps generalizing e l with
  | nil => exact h.swept rfl
  | cons step rest ih =>
    rw [Closing.tasks, Monitor.holds_bind]
    exact (h.closing step).mono fun _ _ _ first => (ih first.left).mono fun _ _ _ next => first.trans next

/-! ## Demands -/

theorem run_onHandle_of_error {err : Error} (refused : e.usable n = .error err) (op : Nat → Operation α) :
    (onHandle n op).run.run e = pure (.error (.failed err), e) := by
  have same : (onHandle n op).run.run e = (do op (← outcome (e.usable n)) : Operation α).run.run e := rfl
  rw [same, refused]
  rfl

theorem run_onHandle_of_ok (usable : e.usable n = .ok c) (op : Nat → Operation α) :
    (onHandle n op).run.run e = (op c).run.run e := by
  have same : (onHandle n op).run.run e = (do op (← outcome (e.usable n)) : Operation α).run.run e := rfl
  rw [same, usable]
  rfl

/-- what a demand does with the connection -/
theorem Demand.exists_op (d : Demand) (n : Nat) : ∃ op, (d.act n).operation = onHandle n op := by
  cases d <;> exact ⟨_, rfl⟩

/-- on an engine that is closed, or without a connection, a demand fails at once -/
theorem says_demand_of_error {err : Error} (refused : e.usable n = .error err) {d : Demand} {result : Except Halt Unit}
    (said : ((d.act n).operation.run.run e).Says t (result, e')) :
    t = [] ∧ result = .error (.failed err) ∧ e' = e := by
  obtain ⟨op, same⟩ := d.exists_op n
  rw [same, run_onHandle_of_error refused] at said
  obtain ⟨rfl, same⟩ := Dialogue.says_pure.mp said
  obtain ⟨rfl, rfl⟩ := Prod.mk.inj same
  exact ⟨rfl, rfl, rfl⟩

theorem usable_of_closed (closed : e.closed = true) : e.usable n = .error e.closedError := if_pos closed

theorem usable_of_slot (isOpen : e.closed = false) (full : slot n e = some c) : e.usable n = .ok c := by
  rw [slot] at full
  rw [usable, if_neg (by simp [isOpen]), full]

theorem usable_of_empty (isOpen : e.closed = false) (empty : slot n e = none) :
    e.usable n = .error e.releasedError := by
  rw [slot] at empty
  rw [usable, if_neg (by simp [isOpen]), empty]

theorem Held.run (h : Held c n f e) (job : Job) : (listen c new).Holds (job.on c).run
    (fun _ e' l' => Held c n f e' ∧ ∃ more, l' = l ++ more ∧ ∀ h ∈ more, h ≠ .shut) e l := by
  have open_ : ∀ h : Heard, h.Of job.statement → h ≠ .shut := by
    rintro _ of rfl
    exact of
  have nothing : ∃ more, l = l ++ more ∧ ∀ h ∈ more, h ≠ Heard.shut :=
    ⟨[], (List.append_nil l).symm, fun _ mem => absurd mem List.not_mem_nil⟩
  refine (Job.keeps (listen_allows open_) e l nothing).mono ?_
  rintro _ _ l' ⟨⟨known, rfl⟩, heard, _⟩
  exact ⟨⟨h.handle, h.lent, h.idle, h.only⟩, heard⟩

/-- the command that ends the transaction, and what is noted if it succeeds -/
theorem Held.command (h : Held c n f e) (command : String) : (listen c new).Holds
    (do scriptOn c command; setHandle n { connection := some c, finished := true } : Operation Unit).run
    (fun result e' l' => ∃ refused, l' = l ++ [.ran command [] refused] ∧
      (result = .ok () ∧ refused = false ∧ Held c n true e' ∨ result ≠ .ok () ∧ Held c n f e')) e l := by
  refine Monitor.holds_run_bind.mpr (Monitor.holds_scriptOn.mpr fun answer _ => ?_)
  simp only [listen, heard?, if_true, Option.toList_some]
  rcases answer with (fault | _) | _
  · exact ⟨true, rfl, .inr ⟨by rintro ⟨⟩, h⟩⟩
  · refine ⟨false, rfl, .inl ⟨rfl, rfl, ?_⟩⟩
    refine ⟨lookup_reset h.handle, h.lent, h.idle, fun k g mem => ?_⟩
    rcases Custody.mem_reset mem with same | ⟨_, mem⟩
    · exact (Prod.mk.inj same).1
    · exact h.only k g mem
  · exact ⟨false, rfl, .inr ⟨by rintro ⟨⟩, h⟩⟩

/-- a demand leaves the connection in its slot, and it is noted whether the transaction was ended -/
structure Kept (c n : Nat) (f : Bool) (d : Demand) (t : List Reply) (result : Except Halt Unit) (e' : Engine)
    (f' : Bool) : Prop where
  held : Held c n f' e'
  unclosed : .shut ∉ hear c t
  ended : f' = true ↔ f = true ∨ d.Ends result (hear c t)

theorem Held.finish {d : Demand} {result : Except Halt Unit} (h : Held c n f e) (command : String)
    (usable : e.usable n = .ok c) (ends : d.command? = some command)
    (said : ((Engine.finish n command).run.run e).Says t (result, e')) : ∃ f', Kept c n f d t result e' f' := by
  rw [Engine.finish, run_onHandle_of_ok usable] at said
  obtain ⟨refused, heard, ⟨ok, rfl, held⟩ | ⟨failed, held⟩⟩ := heard_of_run (h.command command) said
  · exact ⟨true, held, by simp [heard], iff_of_true rfl (.inr ⟨command, ends, ok, heard⟩)⟩
  · exact ⟨f, held, by simp [heard], (or_iff_left fun ⟨_, _, ok, _⟩ => failed ok).symm⟩

theorem Held.demand (h : Held c n f e) {d : Demand} {result : Except Halt Unit}
    (said : ((d.act n).operation.run.run e).Says t (result, e')) :
    (∃ f', Kept c n f d t result e' f') ∧
      (e.closed = true → t = [] ∧ result = .error (.failed e.closedError)) := by
  cases closed : e.closed with
  | true =>
    obtain ⟨rfl, rfl, rfl⟩ := says_demand_of_error (usable_of_closed closed) said
    have unended : ¬d.Ends (.error (.failed e'.closedError)) [] := fun ⟨_, _, ended, _⟩ => nomatch ended
    exact ⟨⟨f, h, List.not_mem_nil, (or_iff_left unended).symm⟩, fun _ => ⟨rfl, rfl⟩⟩
  | false =>
    have usable : e.usable n = .ok c := usable_of_slot closed h.slot
    refine ⟨?_, nofun⟩
    cases d with
    | run job =>
      rw [show (Demand.act n (.run job)).operation = onHandle n fun c => job.on c from rfl,
        run_onHandle_of_ok usable] at said
      obtain ⟨held, more, heard, unclosed⟩ := heard_of_run (h.run job) said
      rw [List.nil_append] at heard
      exact ⟨f, held, fun mem => unclosed _ (heard ▸ mem) rfl, (or_iff_left fun ⟨_, ends, _⟩ => nomatch ends).symm⟩
    | commit => exact h.finish "COMMIT" usable rfl said
    | rollback => exact h.finish "ROLLBACK" usable rfl said

/-- without a connection a demand fails at once -/
theorem Left.demand (h : Left c n e) {d : Demand} {result : Except Halt Unit}
    (said : ((d.act n).operation.run.run e).Says t (result, e')) :
    t = [] ∧ result = .error (.failed (if e.closed then e.closedError else e.releasedError)) ∧ e' = e := by
  cases closed : e.closed with
  | true => exact says_demand_of_error (usable_of_closed closed) said
  | false => exact says_demand_of_error (usable_of_empty closed h.slot) said

/-! ## Giving up what is given up already -/

theorem run_vacate_of_empty (empty : slot n e = none) : (Engine.vacate n).run e = pure (none, e) := by
  rw [Engine.vacate, StateT.run_bind, StateT.run_get, pure_bind]
  dsimp only
  split
  · next c f found => simp [slot, found] at empty
  · rfl

theorem run_release_of_empty (empty : slot n e = none) : (Engine.release n).run e = pure ((), e) := by
  rw [Engine.release, StateT.run_bind, run_vacate_of_empty empty]
  rfl

theorem run_discard_of_empty (empty : slot n e = none) : (Engine.discard n).run e = pure ((), e) := by
  rw [Engine.discard, StateT.run_bind, run_vacate_of_empty empty]
  rfl

theorem run_forget_of_empty (empty : slot n e = none) :
    (Engine.forget n).run e = pure ((), { e with handles := e.handles.filter fun p => p.1 ≠ n }) := by
  rw [Engine.forget, StateT.run_bind, run_release_of_empty empty]
  rfl

/-- an operation on the engine that cannot fail -/
theorem says_run_lift {x : Postgres.Task Unit} {result : Except Halt Unit}
    (said : ((liftM x : Operation Unit).run.run e).Says t (result, e')) :
    result = .ok () ∧ (x.run e).Says t ((), e') := by
  rw [show (liftM x : Operation Unit).run = (do return .ok (← x)) from rfl, StateT.run_bind] at said
  obtain ⟨front, ⟨_, e₁⟩, back, rfl, ran, said⟩ := Dialogue.says_bind.mp said
  obtain ⟨rfl, same⟩ := Dialogue.says_pure.mp said
  obtain ⟨rfl, rfl⟩ := Prod.mk.inj same
  exact ⟨rfl, (List.append_nil front).symm ▸ ran⟩

/-- and that asks nothing -/
theorem says_run_lift_pure {x : Postgres.Task Unit} {e₁ : Engine} {result : Except Halt Unit}
    (silent : x.run e = pure ((), e₁)) (said : ((liftM x : Operation Unit).run.run e).Says t (result, e')) :
    t = [] ∧ result = .ok () ∧ e' = e₁ := by
  obtain ⟨rfl, ran⟩ := says_run_lift said
  rw [silent] at ran
  obtain ⟨rfl, same⟩ := Dialogue.says_pure.mp ran
  exact ⟨rfl, rfl, (Prod.mk.inj same).2⟩

end Tabula.Postgres
