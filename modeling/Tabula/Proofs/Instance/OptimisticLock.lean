import Tabula.Proofs.Instance.FailedSave
import Tabula.Proofs.Instance.Loading
import Tabula.Proofs.Instance.Saving
import Mathlib.Logic.Function.Basic
/-!
# No lost update

Several programs hold copies of one stored row.  They load them, refresh them, set their fields and save them, in any
order, one operation at a time: each asks the database one question at most, and the database answers at once.  The
version of the row keeps a copy from overwriting what it has not seen.  `World.Inv` is the invariant of such runs:
the version that a copy has observed is that of the row just if no other copy has updated the row since.
-/

namespace Tabula

/-! ## Runs -/

/-- what may happen between a row and its copies -/
inductive Happening where
  /-- a copy got the values of the row -/
  | loaded (copy : Nat)
  /-- the save of a copy updated the row -/
  | updated (copy : Nat)
  deriving DecidableEq

/-- whether no other copy's save has updated the row since a copy was last loaded, refreshed or saved; a save that does
nothing does not count.  What happened last stands first. -/
def isUntouched (copy : Nat) : List Happening → Bool
  | [] => false
  | .loaded c :: rest => c = copy || isUntouched copy rest
  | .updated c :: _ => c = copy

/-- a row, the programs that use it, and the copies that they hold -/
structure World where
  entity : Entity
  row : StoredRow
  /-- the registries of the programs -/
  registries : Nat → Registry
  copies : Nat → Option Instance := fun _ => none
  /-- what happened, the last first -/
  history : List Happening := []

/-- a step of a program -/
inductive Step where
  /-- loads a copy by a key -/
  | load (program copy : Nat) (key : List Value)
  | refresh (program copy : Nat)
  | set (copy : Nat) (name : String) (v : Value)
  /-- saves a copy at a moment, some of its fields even if they have not changed -/
  | save (program copy : Nat) (now : Instant) (names : List String)

namespace World

/-- the world with another registry of a program -/
def withRegistry (w : World) (program : Nat) (r : Registry) : World :=
  { w with registries := Function.update w.registries program r }

/-- the world with another row -/
def withRow (w : World) (row : StoredRow) : World := { w with row := row }

/-- the world with another copy in a place -/
def withCopy (w : World) (copy : Nat) (i : Instance) : World :=
  { w with copies := Function.update w.copies copy (some i) }

/-- the world after something has happened -/
def after (w : World) (h : Happening) : World := { w with history := h :: w.history }

/-- does the work of a program -/
def work {α : Type} (w : World) (program : Nat) (task : Work α) : α × World :=
  let done := Dialogue.run StoredRow.answer w.row (task (w.registries program))
  (done.1.1, (w.withRegistry program done.1.2).withRow done.2)

/-- loads a copy of the row with a key; without success there is no new copy -/
def load (w : World) (program copy : Nat) (key : List Value) : World :=
  let manager : Manager := { entity := w.entity, database := some w.row.database.name }
  let done := w.work program (manager.loadKey [] key)
  match done.1 with
  | .ok i => (done.2.withCopy copy i).after (.loaded copy)
  | .error _ => done.2

/-- refreshes a copy -/
def refresh (w : World) (program copy : Nat) (i : Instance) : World :=
  let done := w.work program (i.refresh [])
  let refreshed := done.2.withCopy copy done.1.2
  match done.1.1 with
  | .ok () => refreshed.after (.loaded copy)
  | .error _ => refreshed

/-- sets a field of a copy; a refused value changes nothing -/
def set (w : World) (copy : Nat) (i : Instance) (name : String) (v : Value) : World :=
  match i.set name v with
  | .ok j => w.withCopy copy j
  | .error _ => w

/-- saves a copy and tells how it went -/
def save (w : World) (program copy : Nat) (i : Instance) (now : Instant) (names : List String) :
    Outcome Unit × World :=
  let done := w.work program (i.saveWith [] now { fields := names })
  let saved := done.2.withCopy copy done.1.2
  (done.1.1, if w.row.updates < saved.row.updates then saved.after (.updated copy) else saved)

/-- does something with a copy, if there is one -/
def withHeld (w : World) (copy : Nat) (f : Instance → World) : World :=
  match w.copies copy with
  | some i => f i
  | none => w

/-- makes a step -/
def step (w : World) : Step → World
  | .load program copy key => w.load program copy key
  | .refresh program copy => w.withHeld copy (w.refresh program copy)
  | .set copy name v => w.withHeld copy fun i => w.set copy i name v
  | .save program copy now names => w.withHeld copy fun i => (w.save program copy i now names).2

/-- makes steps one after the other -/
def run (w : World) (steps : List Step) : World := steps.foldl step w

end World

/-! ## The invariant -/

/-- a step that sets neither the key nor the version, sets what can be stored, and saves fields that there are -/
def Step.Allowed (m : Model) (version : Nat) : Step → Prop
  | .load .. | .refresh .. => True
  | .set _ name v => m.MaySet version name v
  | .save _ _ _ names => ∀ name ∈ names, ∃ p, m.position name = .ok p

namespace World

/-- every copy has observed a version that the row has or had, and the one that it has just if the copy is current -/
structure Inv (w : World) (version : Nat) (stored : Int64) : Prop where
  registries : ∀ program, (w.registries program).Serves w.entity w.row.database
  row : w.row.Keeps w.entity.model version stored
  copies : ∀ copy i, w.copies copy = some i → ∃ n : Int64, i.IsCopy w.entity w.row version n ∧
    n.toInt ≤ stored.toInt ∧ (stored = n ↔ isUntouched copy w.history = true)

variable {w : World} {version : Nat} {stored n : Int64} {program copy other : Nat} {i j : Instance} {r : Registry}

theorem copies_withCopy_self : (w.withCopy copy i).copies copy = some i := Function.update_self ..

theorem copies_withCopy_ne (h : other ≠ copy) : (w.withCopy copy i).copies other = w.copies other :=
  Function.update_of_ne h ..

theorem Inv.withRegistry (h : w.Inv version stored) (hr : r.Serves w.entity w.row.database) (program : Nat) :
    (w.withRegistry program r).Inv version stored := by
  refine ⟨fun other => ?_, h.row, h.copies⟩
  by_cases same : other = program
  · subst same
    have there : (w.withRegistry other r).registries other = r := Function.update_self ..
    rw [there]
    exact hr
  · have there : (w.withRegistry program r).registries other = w.registries other := Function.update_of_ne same ..
    rw [there]
    exact h.registries other

/-- a copy just loaded or refreshed has the version of the row -/
theorem Inv.loaded (h : w.Inv version stored) (hi : i.IsCopy w.entity w.row version stored) (copy : Nat) :
    ((w.withCopy copy i).after (.loaded copy)).Inv version stored := by
  refine ⟨h.registries, h.row, fun other k hk => ?_⟩
  by_cases same : other = copy
  · subst same
    obtain rfl := Option.some.inj (copies_withCopy_self.symm.trans hk)
    exact ⟨stored, hi, Int.le_refl _, by simp [after, isUntouched]⟩
  · obtain ⟨n, hk, le, current⟩ := h.copies other k ((copies_withCopy_ne same).symm.trans hk)
    refine ⟨n, hk, le, current.trans ?_⟩
    simp [after, withCopy, isUntouched, Ne.symm same]

/-- a copy may change as long as it has observed the same version -/
theorem Inv.replaced (h : w.Inv version stored) (held : w.copies copy = some i)
    (hj : ∀ n, i.IsCopy w.entity w.row version n → j.IsCopy w.entity w.row version n) :
    (w.withCopy copy j).Inv version stored := by
  refine ⟨h.registries, h.row, fun other k hk => ?_⟩
  by_cases same : other = copy
  · subst same
    obtain rfl := Option.some.inj (copies_withCopy_self.symm.trans hk)
    obtain ⟨n, hi, le, current⟩ := h.copies other i held
    exact ⟨n, hj n hi, le, current⟩
  · exact h.copies other k ((copies_withCopy_ne same).symm.trans hk)

/-- when a save has updated the row, its copy has the new version and no other has -/
theorem Inv.written (h : w.Inv version stored) {row : StoredRow} (lt : stored < Int64.maxValue)
    (hj : j.IsCopy w.entity row version (stored + 1)) (keeps : row.Keeps w.entity.model version (stored + 1))
    (key : ∀ p ∈ w.entity.model.key, row.cells[p]? = w.row.cells[p]?) (database : row.database = w.row.database)
    (copy : Nat) : (((w.withRow row).withCopy copy j).after (.updated copy)).Inv version (stored + 1) := by
  have next := Instance.toInt_next lt
  refine ⟨fun program => database ▸ h.registries program, keeps, fun other k hk => ?_⟩
  by_cases same : other = copy
  · subst same
    obtain rfl := Option.some.inj (copies_withCopy_self.symm.trans hk)
    exact ⟨stored + 1, hj, Int.le_refl _, by simp [after, isUntouched]⟩
  · obtain ⟨n, hk, le, _⟩ := h.copies other k ((copies_withCopy_ne same).symm.trans hk)
    refine ⟨n, hk.of_key database key, by omega, ?_⟩
    have older : stored + 1 ≠ n := by
      rintro rfl
      omega
    simp [after, isUntouched, Ne.symm same, older]

/-! ### Steps -/

theorem Inv.load (h : w.Inv version stored) (hm : w.entity.model.Versioned version) (program copy : Nat)
    (key : List Value) : (w.load program copy key).Inv version stored := by
  obtain ⟨found, r, run, serves, made⟩ := Manager.run_loadKey (h.registries program) hm h.row [] key
  have kept := h.withRegistry serves program
  unfold World.load work
  simp only [run]
  cases found with
  | error err => exact kept
  | ok i => exact kept.loaded (made i rfl) copy

theorem Inv.refresh (h : w.Inv version stored) (hm : w.entity.model.Versioned version) (program : Nat)
    (held : w.copies copy = some i) : (w.refresh program copy i).Inv version stored := by
  obtain ⟨n, hi, _⟩ := h.copies copy i held
  obtain ⟨answer, j, r, run, serves, result⟩ := hi.run_refresh (h.registries program) hm h.row []
  have kept := h.withRegistry serves program
  unfold World.refresh work
  simp only [run]
  rcases result with ⟨err, rfl, rfl⟩ | ⟨rfl, hj⟩
  · exact kept.replaced held fun n hn => hn
  · exact kept.loaded hj copy

theorem Inv.set (h : w.Inv version stored) (held : w.copies copy = some i) {name : String} {v : Value}
    (may : w.entity.model.MaySet version name v) : (w.set copy i name v).Inv version stored := by
  unfold World.set
  cases result : i.set name v with
  | error err => exact h
  | ok j => exact h.replaced held fun n hn => hn.set may result

/-- a save as the case that it ends in -/
theorem Inv.save_cases (h : w.Inv version stored) (hm : w.entity.model.Versioned version) {f : Field}
    (hf : w.entity.model.fields[version]? = some f) (program : Nat) (held : w.copies copy = some i) (now : Instant)
    {names : List String} (known : ∀ name ∈ names, ∃ p, w.entity.model.position name = .ok p) :
    ∃ (n : Int64) (result : Outcome Unit × Instance) (r : Registry) (row : StoredRow),
      i.IsCopy w.entity w.row version n ∧ (stored = n ↔ isUntouched copy w.history = true) ∧
      r.Serves w.entity w.row.database ∧ i.Saved f w.row version n stored result row ∧
      w.save program copy i now names = (result.1,
        let saved := ((w.withRegistry program r).withRow row).withCopy copy result.2
        if w.row.updates < row.updates then saved.after (.updated copy) else saved) := by
  obtain ⟨n, hi, _, current⟩ := h.copies copy i held
  obtain ⟨result, r, row, run, serves, saved⟩ := hi.saved hm hf h.row (h.registries program) known [] now
  refine ⟨n, result, r, row, hi, current, serves, saved, ?_⟩
  simp only [World.save, work, run]
  rfl

theorem Inv.save (h : w.Inv version stored) (hm : w.entity.model.Versioned version) (program : Nat)
    (held : w.copies copy = some i) (now : Instant) {names : List String}
    (known : ∀ name ∈ names, ∃ p, w.entity.model.position name = .ok p) :
    ∃ stored', (w.save program copy i now names).2.Inv version stored' := by
  obtain ⟨f, hf, _⟩ := hm.field
  obtain ⟨n, result, r, row, hi, _, serves, saved, run⟩ := h.save_cases hm hf program held now known
  have kept := h.withRegistry serves program
  rw [run]
  -- only a save that has updated the row touches anything
  have idle : (((w.withRegistry program r).withRow w.row).withCopy copy i).Inv version stored :=
    kept.replaced held fun n hn => hn
  cases saved with
  | unchanged none => exact ⟨stored, by simpa using idle⟩
  | exhausted some last => exact ⟨stored, by simpa using idle⟩
  | stale some lt other => exact ⟨stored, by simpa using idle⟩
  | written some lt same copied keeps key database counted =>
    subst same
    refine ⟨stored + 1, ?_⟩
    simp only [counted, Nat.lt_add_one, if_true]
    rw [hi.entity] at copied
    rw [hi.model] at keeps key
    exact kept.written lt copied keeps key database copy

/-! ### Runs -/

/-- what holds of a world and of whatever is done with a copy holds afterwards -/
theorem withHeld_of {q : World → Prop} (hw : q w) {f : Instance → World} (hf : ∀ i, w.copies copy = some i → q (f i)) :
    q (w.withHeld copy f) := by
  unfold withHeld
  split
  · next i held => exact hf i held
  · exact hw

theorem entity_step (w : World) (s : Step) : (w.step s).entity = w.entity := by
  cases s with
  | load program copy key =>
    simp only [step, load]
    split <;> rfl
  | refresh program copy =>
    refine withHeld_of (q := (·.entity = w.entity)) rfl fun i _ => ?_
    simp only [refresh]
    split <;> rfl
  | set copy name v =>
    refine withHeld_of (q := (·.entity = w.entity)) rfl fun i _ => ?_
    simp only [set]
    split <;> rfl
  | save program copy now names =>
    refine withHeld_of (q := (·.entity = w.entity)) rfl fun i _ => ?_
    simp only [save]
    split <;> rfl

/-- **Every step keeps the invariant.** -/
theorem Inv.step (h : w.Inv version stored) (hm : w.entity.model.Versioned version) {s : Step}
    (allowed : s.Allowed w.entity.model version) : ∃ stored', (w.step s).Inv version stored' := by
  cases s with
  | load program copy key => exact ⟨stored, h.load hm program copy key⟩
  | refresh program copy =>
    exact withHeld_of (q := fun x => ∃ k, x.Inv version k) ⟨stored, h⟩ fun i held => ⟨stored, h.refresh hm program held⟩
  | set copy name v =>
    exact withHeld_of (q := fun x => ∃ k, x.Inv version k) ⟨stored, h⟩ fun i held => ⟨stored, h.set held allowed⟩
  | save program copy now names =>
    exact withHeld_of (q := fun x => ∃ k, x.Inv version k) ⟨stored, h⟩ fun i held => h.save hm program held now allowed

/-- **The invariant holds after every run.** -/
theorem Inv.run (h : w.Inv version stored) (hm : w.entity.model.Versioned version) {steps : List Step}
    (allowed : ∀ s ∈ steps, s.Allowed w.entity.model version) :
    (∃ stored', (w.run steps).Inv version stored') ∧ (w.run steps).entity = w.entity := by
  induction steps generalizing w stored with
  | nil => exact ⟨⟨stored, h⟩, rfl⟩
  | cons s rest ih =>
    obtain ⟨stored', next⟩ := h.step hm (allowed s List.mem_cons_self)
    have entity := w.entity_step s
    have later : ∀ t ∈ rest, t.Allowed (w.step s).entity.model version := by
      rw [entity]
      exact fun t ht => allowed t (List.mem_cons_of_mem _ ht)
    obtain ⟨inv, same⟩ := ih next (entity ▸ hm) later
    exact ⟨inv, same.trans entity⟩

end World

/-! ## No lost update -/

/-- whether a row is one of a model's table: its columns hold their cells, only what may be missing is missing, and
documents hold finite numbers -/
structure StoredRow.Fits (row : StoredRow) (m : Model) : Prop extends row.IsOf m where
  holds : ∀ (p : Nat) (f : Field) (c : Value), m.fields[p]? = some f → row.cells[p]? = some c → f.kind.holds c = true
  required : ∀ (p : Nat) (f : Field), m.fields[p]? = some f → f.nullable = false → row.cells[p]? ≠ some .null
  finite : ∀ j : Json, .json j ∈ row.cells → j.isFinite = true

theorem StoredRow.Fits.keeps {row : StoredRow} {m : Model} {version : Nat} (h : row.Fits m) (hm : m.Versioned version)
    {f : Field} (hf : m.fields[version]? = some f) (required : f.nullable = false) : ∃ n, row.Keeps m version n := by
  obtain ⟨c, there⟩ : ∃ c, row.cells[version]? = some c :=
    ⟨_, List.getElem?_eq_getElem (h.length ▸ hm.lt_length)⟩
  obtain ⟨g, hg, kind⟩ := hm.field
  have held := h.holds version g c hg there
  rw [hf] at hg
  injection hg with hg
  have present := h.required version f hf required
  rw [there] at present
  have counter : ∃ n, row.cells[version]? = some (.int n) := by
    rw [there]
    rw [kind] at held
    cases c with
    | int n => exact ⟨n, rfl⟩
    | null => exact absurd rfl present
    | _ => cases held
  obtain ⟨n, counter⟩ := counter
  refine ⟨n, h.toIsOf, h.holds, fun p hp c hc => ?_, counter⟩
  have field := List.getElem?_eq_getElem (hm.key_lt p hp)
  have mem := Model.mem_keyFields hp field
  have some : c.isNull = false := by
    cases c with
    | null => exact absurd hc (h.required p _ field (hm.key_required _ mem))
    | _ => rfl
  have same := Field.same_self_of_holds (h.holds p _ c field hc) (hm.comparable _ mem) fun j hj =>
    h.finite j (hj ▸ List.mem_of_getElem? hc)
  exact Value.equals_yes.mpr ⟨some, some, same⟩

namespace World

/-- how programs begin: with the database attached, a row, and no copies of it -/
structure Begins (w : World) : Prop where
  registries : ∀ program, (w.registries program).Serves w.entity w.row.database
  row : w.row.Fits w.entity.model
  copies : ∀ copy, w.copies copy = none

/-- what a version promises of the save of a copy -/
structure Guarded (before after : World) (i : Instance) (copy version : Nat) (f : Field) (answer : Outcome Unit) :
    Prop where
  /-- the copy has a version -/
  counter : ∃ n, i.valueAt version = .int n
  /-- without a changed field nothing is done -/
  idle : i.changed = [] → answer = .ok () ∧ after = before
  /-- with one, and a version that can be counted up, the save succeeds just if no other copy's save has updated the
  row since the copy was last loaded or saved -/
  succeeds : i.changed ≠ [] → ∀ n, i.valueAt version = .int n → n < Int64.maxValue →
    (answer = .ok () ↔ isUntouched copy before.history = true)
  /-- a save that has something to write succeeds just if it updates the row -/
  updates : i.changed ≠ [] → (answer = .ok () ↔ before.row.updates < after.row.updates)
  /-- an update raises the version of the row by exactly one -/
  counts : before.row.updates < after.row.updates → ∃ n n' : Int64, before.row.cells[version]? = some (.int n) ∧
    after.row.cells[version]? = some (.int n') ∧ n'.toInt = n.toInt + 1
  /-- any other save is refused, as stale or because the version cannot be counted up, and changes neither the row nor
  any copy -/
  refused : answer ≠ .ok () → (∃ n, i.valueAt version = .int n ∧
    answer = .error (if n < Int64.maxValue then i.stale else f.exhausted)) ∧
    after.row = before.row ∧ after.copies = before.copies

end World

theorem Instance.IsCopy.changed_eq_nil {i : Instance} {e : Entity} {row : StoredRow} {version : Nat} {n : Int64}
    (h : i.IsCopy e row version n) : i.changed = [] ↔ i.changedPositions = [] := by
  obtain ⟨old, snapshot, _⟩ := h.observed
  have named : ∀ p ∈ i.changedPositions, ∃ name, (i.model.fields[p]?).map Field.name = some name := by
    intro p hp
    simp only [changedPositions, snapshot] at hp
    have lt := List.mem_range.mp (List.mem_filter.mp hp).1
    rw [h.values.length] at lt
    exact ⟨_, by rw [h.model, List.getElem?_eq_getElem lt, Option.map_some]⟩
  unfold changed
  constructor
  · intro none
    cases hc : i.changedPositions with
    | nil => rfl
    | cons p rest =>
      obtain ⟨name, hn⟩ := named p (hc ▸ List.mem_cons_self)
      rw [hc, List.filterMap_cons, hn] at none
      cases none
  · intro none
    rw [none]
    rfl

namespace World

open Instance (counters)

variable {w : World} {version copy : Nat} {stored : Int64} {i : Instance} {m : Model} {f : Field}

/-- without changes, a save leaves the world alone -/
theorem save_unchanged (none : i.changedPositions = []) (held : w.copies copy = some i) (program : Nat) (now : Instant)
    (names : List String) : w.save program copy i now names = (.ok (), w) := by
  have idle : i.saveWith [] now { fields := names } (w.registries program) =
      pure ((.ok (), i), w.registries program) := by
    simp only [Instance.saveWith, none, List.isEmpty_nil, if_true]
  have registries := Function.update_eq_self program w.registries
  have copies := Function.update_eq_self copy w.copies
  rw [held] at copies
  have same : ((w.withRegistry program (w.registries program)).withRow w.row).withCopy copy i = w := by
    simp only [withRegistry, withRow, withCopy, registries, copies]
  have done : w.work program (i.saveWith [] now { fields := names }) =
      ((.ok (), i), (w.withRegistry program (w.registries program)).withRow w.row) := by
    rw [work, idle]
    rfl
  simp only [save, done, same, Nat.lt_irrefl, if_false]

/-- a refused save that leaves the row and the copies alone keeps the promises -/
theorem guarded_of_error {w' : World} {n : Int64} (f : Field) (copy : Nat) (some : i.changed ≠ [])
    (observed : i.valueAt version = .int n) (row : w'.row = w.row) (copies : w'.copies = w.copies)
    (outdated : n < Int64.maxValue → isUntouched copy w.history = false) :
    w.Guarded w' i copy version f (.error (if n < Int64.maxValue then i.stale else f.exhausted)) := by
  refine ⟨⟨n, observed⟩, fun none => absurd none some, fun _ k hk lt => ?_, fun _ => ?_, fun less => ?_,
    fun _ => ?_⟩
  · rw [observed] at hk
    injection hk with hk
    simp [outdated (hk ▸ lt)]
  · simp [row]
  · rw [row] at less
    exact absurd less (Nat.lt_irrefl _)
  · exact ⟨⟨n, observed, rfl⟩, row, copies⟩

/-- **The invariant keeps the promises.** -/
theorem Inv.guarded (h : w.Inv version stored) (hm : w.entity.model.Versioned version)
    (hf : w.entity.model.fields[version]? = some f) (held : w.copies copy = some i) (program : Nat) (now : Instant)
    {names : List String} (known : ∀ name ∈ names, ∃ p, w.entity.model.position name = .ok p) :
    w.Guarded (w.save program copy i now names).2 i copy version f (w.save program copy i now names).1 := by
  obtain ⟨n, result, r, row, hi, current, _, saved, run⟩ := h.save_cases hm hf program held now known
  have observed := Instance.valueAt_of_getElem hi.values.counter
  have changed := hi.changed_eq_nil
  have copies : (((w.withRegistry program r).withRow w.row).withCopy copy i).copies = w.copies := by
    have same := Function.update_eq_self copy w.copies
    rwa [held] at same
  have unmoved : (((w.withRegistry program r).withRow w.row).withCopy copy i).row = w.row := rfl
  cases saved with
  | unchanged none =>
    rw [save_unchanged none held]
    have unchanged := changed.mpr none
    exact ⟨⟨n, observed⟩, fun _ => ⟨rfl, rfl⟩, fun some => absurd unchanged some,
      fun some => absurd unchanged some, fun less => absurd less (Nat.lt_irrefl _), fun refused => absurd rfl refused⟩
  | exhausted some last =>
    simp only [Nat.lt_irrefl, if_false] at run
    rw [run]
    have refused := guarded_of_error f copy (mt changed.mp some) observed unmoved copies fun lt => absurd lt last
    rwa [if_neg last] at refused
  | stale some lt other =>
    simp only [Nat.lt_irrefl, if_false] at run
    rw [run]
    have outdated : isUntouched copy w.history = false := Bool.eq_false_iff.mpr (mt current.mpr other)
    have refused := guarded_of_error f copy (mt changed.mp some) observed unmoved copies fun _ => outdated
    rwa [if_pos lt] at refused
  | written some lt same copied keeps key database counted =>
    simp only [counted, Nat.lt_add_one, if_true] at run
    rw [run]
    have less : w.row.updates < row.updates := by omega
    refine ⟨⟨n, observed⟩, fun none => absurd (changed.mp none) some, fun _ _ _ _ => ?_, fun _ => ?_, fun _ => ?_,
      fun refused => absurd rfl refused⟩
    · exact iff_of_true rfl (current.mp same)
    · exact iff_of_true rfl less
    · exact ⟨n, n + 1, same ▸ h.row.counter, keeps.counter, Instance.toInt_next lt⟩

/-- **No lost update.**  The model has a version counter that must be present, and its key is neither floating-point nor
filled in by saves.  Whatever programs have done to one stored row and its copies, in any order: the next save of any
copy keeps the promises of the version. -/
theorem guarded_save {d : Draft} (built : d.build = .ok m) (concrete : m.isAbstract = false)
    (counter : m.versionPosition? = some version) (hf : m.fields[version]? = some f) (required : f.nullable = false)
    (key : ∀ g ∈ m.keyFields, g.kind ≠ .float ∧ g.kind.isAutomatic = false) (model : w.entity.model = m)
    (begins : w.Begins) {steps : List Step} (allowed : ∀ s ∈ steps, s.Allowed m version)
    (held : (w.run steps).copies copy = some i) (program : Nat) (now : Instant) {names : List String}
    (known : ∀ name ∈ names, ∃ p, m.position name = .ok p) :
    (w.run steps).Guarded ((w.run steps).save program copy i now names).2 i copy version f
      ((w.run steps).save program copy i now names).1 := by
  have sound := Draft.sound_of_build built
  have hm : m.Versioned version :=
    ⟨sound, sound.key_ne concrete, counter, fun g hg => (key g hg).1, fun g hg => (key g hg).2⟩
  subst model
  obtain ⟨stored, keeps⟩ := begins.row.keeps hm hf required
  have start : w.Inv version stored :=
    ⟨begins.registries, keeps, fun copy i held => by simp [begins.copies copy] at held⟩
  obtain ⟨⟨stored', inv⟩, entity⟩ := start.run hm allowed
  exact inv.guarded (entity ▸ hm) (entity ▸ hf) held program now (entity ▸ known)

/-- the definition of the counters -/
def counterDraft : Draft where
  name := "Counter"
  table := some "counter"
  fields := [(Field.new "id" .bigInt).asKey, Field.new "hits" .bigInt, Field.new "rev" .version]

/-- a stored counter that many programs use -/
def shared : World where
  entity := ⟨0, counters⟩
  row := {
    database := ⟨defaultDatabase, 0⟩
    table := "counter"
    columns := ["id", "hits", "rev"]
    cells := [.int 1, .int 4, .int 2]
  }
  registries := fun _ => .ofDatabases [⟨defaultDatabase, 0⟩]

/-- two programs load the counter and count it up, and the first has saved -/
def raced : List Step :=
  [.load 0 0 [.int 1], .load 1 1 [.int 1], .set 0 "hits" (.int 5), .save 0 0 ⟨0, 0⟩ [], .set 1 "hits" (.int 5)]

theorem shared_fits : shared.row.Fits counters where
  table := rfl
  columns := rfl
  length := rfl
  holds p f c hf hc := by
    match p with
    | 0 | 1 | 2 =>
      injection hf with hf
      injection hc with hc
      subst hf hc
      rfl
    | p + 3 => cases hc
  required p f _ _ hc := by
    match p with
    | 0 | 1 | 2 => cases hc
    | p + 3 => cases hc
  finite j hj := by simp [shared] at hj

theorem shared_begins : shared.Begins where
  registries _ := Registry.serves_ofDatabases ..
  row := shared_fits
  copies _ := rfl

theorem maySet_hits (n : Int64) : counters.MaySet 2 "hits" (.int n) := by
  intro p f hp hf
  have position : counters.position "hits" = .ok 1 := by rfl
  rw [position] at hp
  injection hp with hp
  subst hp
  injection hf with hf
  subst hf
  exact ⟨by decide, by decide, .int n, rfl⟩

theorem raced_allowed : ∀ s ∈ raced, s.Allowed counters 2 := by
  intro s hs
  simp only [raced, List.mem_cons, List.not_mem_nil, or_false] at hs
  rcases hs with rfl | rfl | rfl | rfl | rfl
  · trivial
  · trivial
  · exact maySet_hits 5
  · exact fun name none => absurd none List.not_mem_nil
  · exact maySet_hits 5

theorem guarded_save_raced : ∃ i, (shared.run raced).copies 1 = some i ∧ i.changed = ["hits"] ∧
    isUntouched 1 (shared.run raced).history = false ∧
    (shared.run raced).Guarded ((shared.run raced).save 1 1 i ⟨0, 0⟩ []).2 i 1 2 (Field.new "rev" .version)
      ((shared.run raced).save 1 1 i ⟨0, 0⟩ []).1 := by
  have outcome : ((shared.run raced).copies 1).map Instance.changed = some ["hits"] ∧
      isUntouched 1 (shared.run raced).history = false := by decide +kernel
  obtain ⟨i, hi, changed⟩ := Option.map_eq_some_iff.mp outcome.1
  have built : counterDraft.build = .ok counters := rfl
  refine ⟨i, hi, changed, outcome.2, ?_⟩
  have key : ∀ g ∈ counters.keyFields, g.kind ≠ .float ∧ g.kind.isAutomatic = false := by
    intro g hg
    obtain rfl := List.mem_singleton.mp hg
    exact ⟨nofun, rfl⟩
  exact guarded_save built rfl rfl rfl rfl key rfl shared_begins raced_allowed hi 1 ⟨0, 0⟩
    fun name none => absurd none List.not_mem_nil

end World

end Tabula
