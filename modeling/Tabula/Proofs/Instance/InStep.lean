import Tabula.Proofs.Instance.Results
import Tabula.Proofs.Value.Equality
/-!
# Instances in step with their rows

An instance that has just been fetched, refreshed, saved or made with others has nothing to write, and saving it calls
no database.  There is one exception: a floating-point number that is none does not equal its own copy in the snapshot,
so a field that holds one counts as changed ever after, and every save of the instance writes it again.
-/

namespace Tabula

open Dialogue (Always)

namespace Instance

variable {i j fresh : Instance}

/-- the positions of the values that do not equal themselves -/
def unequalPositions (i : Instance) : List Nat :=
  (List.range i.values.length).filter fun p => (i.valueAt p).hasNaN

/-- whether nothing counts as changed but the values that do not equal themselves -/
def InStep (i : Instance) : Prop := i.changedPositions = i.unequalPositions

theorem changedPositions_of_snapshot {old : List Value} (h : i.snapshot = some old) : i.changedPositions =
    (List.range i.values.length).filter fun p => !(old.getD p .null).same (i.valueAt p) := by
  unfold changedPositions
  rw [h]

/-- a snapshot that was just taken differs where a value differs from itself -/
theorem inStep_of_snapshot (h : i.snapshot = some i.values) : i.InStep := by
  have self : ∀ p, (!(i.values.getD p .null).same (i.valueAt p)) = (i.valueAt p).hasNaN := by
    intro p
    have compared : (i.valueAt p).same (i.valueAt p) = !(i.valueAt p).hasNaN := Value.same_self_eq _
    show (!(i.valueAt p).same (i.valueAt p)) = _
    rw [compared, Bool.not_not]
  unfold InStep unequalPositions
  rw [changedPositions_of_snapshot h]
  exact List.filter_congr fun p _ => self p

/-- where nothing has changed, every value equals itself -/
theorem inStep_of_unchanged (clean : i.changedPositions = []) : i.InStep := by
  unfold InStep unequalPositions
  rw [clean, eq_comm, List.filter_eq_nil_iff]
  intro p hp unequal
  cases taken : i.snapshot with
  | none =>
    have all : i.changedPositions = List.range i.values.length := by
      unfold changedPositions
      rw [taken]
    rw [← all, clean] at hp
    exact absurd hp List.not_mem_nil
  | some old =>
    rw [changedPositions_of_snapshot taken, List.filter_eq_nil_iff] at clean
    have kept : (old.getD p .null).same (i.valueAt p) = true := by simpa using clean p hp
    -- the value equals another one, so it equals itself
    have back := Value.same_symm _ _ kept
    have self := Value.same_trans _ _ _ back kept
    rw [Value.same_self_eq, unequal] at self
    cases self

theorem Written.inStep (h : i.Written j) : j.InStep := by
  cases h with
  | unchanged clean => exact inStep_of_unchanged clean
  | inserted values length new => exact inStep_of_snapshot rfl
  | updated values length stored => exact inStep_of_snapshot rfl

theorem inStep_ofRow {e : Entity} {database : String} {raw : List Value} (h : ofRow e database raw = .ok i) :
    i.InStep := by
  obtain ⟨_, values, _, rfl⟩ := ofRow_ok h
  exact inStep_of_snapshot rfl

theorem InStep.changedPositions_eq_nil (h : i.InStep) (numbers : ∀ v ∈ i.values, v.hasNaN = false) :
    i.changedPositions = [] := by
  rw [h, unequalPositions, List.filter_eq_nil_iff]
  intro p hp unequal
  have inside : p < i.values.length := List.mem_range.mp hp
  have there : i.valueAt p = i.values[p] := by simp [Instance.valueAt, inside]
  rw [there, numbers _ (List.getElem_mem inside)] at unequal
  cases unequal

/-- **A save without changes calls no database**, whatever its options. -/
theorem saveWith_of_unchanged (clean : i.changedPositions = []) (active : Active) (now : Instant)
    (options : SaveOptions) (r : Registry) : i.saveWith active now options r = pure ((.ok (), i), r) := by
  unfold saveWith
  rw [clean]
  rfl

end Instance

/-! ## Operations -/

/-- the operations that bring instances into step with their rows -/
inductive Synchronizing where
  | retrieve (how : Retrieval)
  | refresh (i : Instance)
  | save (i : Instance) (now : Instant) (options : SaveOptions)
  | create (m : Manager) (now : Instant) (draw : Nat → Nat) (pairs : List (String × Value))
  | bulkCreate (m : Manager) (now : Instant) (instances : List Instance)

namespace Synchronizing

/-- does an operation and gives its instances as they are afterwards -/
def run (active : Active) : Synchronizing → Work (Outcome (List Instance))
  | retrieve how => how.run active
  | refresh i => do
    let (done, i) ← i.refresh active
    return done.map fun _ => [i]
  | save i now options => do
    let (done, i) ← i.saveWith active now options
    return done.map fun _ => [i]
  | create m now draw pairs => do return (← m.create active now draw pairs).map fun i => [i]
  | bulkCreate m now instances => m.bulkCreate active now instances

theorem always_create (m : Manager) (active : Active) (now : Instant) (draw : Nat → Nat)
    (pairs : List (String × Value)) (r : Registry) :
    Always (fun x => ∀ i, x.1 = .ok i → i.InStep) (m.create active now draw pairs r) := by
  unfold Manager.create
  cases Instance.ofPairs m.entity draw pairs with
  | error err => exact fun i made => by simp at made
  | ok i =>
    simp only
    rw [Work.always_bind]
    refine ((i.routedTo m.databaseName).always_written active now {} r).mono ?_
    rintro ⟨⟨done, j⟩, r'⟩ written k made
    obtain ⟨_, ok, rfl⟩ := Outcome.map_ok.mp made
    exact (written ok).inStep

/-- **Every operation brings its instances into step.** -/
theorem always_run (how : Synchronizing) (active : Active) (r : Registry) :
    Always (fun x => ∀ instances, x.1 = .ok instances → ∀ i ∈ instances, i.InStep) (how.run active r) := by
  cases how with
  | retrieve how =>
    refine (how.always_loads active r).mono fun x h instances ok i hi => ?_
    obtain ⟨m, r', raw, _, read⟩ := h instances ok i hi
    exact Instance.inStep_ofRow read
  | refresh i =>
    unfold run
    rw [Work.always_bind]
    refine (i.always_refresh active r).mono ?_
    rintro ⟨⟨done, j⟩, r'⟩ ⟨_, h⟩ instances ok k hk
    obtain ⟨_, done, rfl⟩ := Outcome.map_ok.mp ok
    obtain ⟨fresh, _, rfl⟩ := h done
    exact List.mem_singleton.mp hk ▸ Instance.inStep_of_snapshot rfl
  | save i now options =>
    unfold run
    rw [Work.always_bind]
    refine (i.always_written active now options r).mono ?_
    rintro ⟨⟨done, j⟩, r'⟩ h instances ok k hk
    obtain ⟨_, done, rfl⟩ := Outcome.map_ok.mp ok
    exact List.mem_singleton.mp hk ▸ (h done).inStep
  | create m now draw pairs =>
    unfold run
    rw [Work.always_bind]
    exact (always_create m active now draw pairs r).mono fun x h => Retrieval.forall_of_single h
  | bulkCreate m now instances =>
    refine (m.always_bulkCreate active now instances r).mono fun x h made ok i hi => ?_
    obtain ⟨j, values, _, _, rfl⟩ := h made ok i hi
    exact Instance.inStep_of_snapshot rfl

/-- **What was just synchronized is clean**, unless a number in it is none.  Whatever the registry holds and whatever
the databases answer: when an operation has brought an instance into step with its row, the values that count as changed
are those that do not equal themselves; without such a value nothing counts as changed, and saving the instance, plain,
forced or with fields asked for, calls no database and leaves it as it is. -/
theorem clean_after {how : Synchronizing} {active : Active} {r r' : Registry}
    {t : List (Dialogue.Exchange Call Call.Answer)} {instances : List Instance}
    (said : (how.run active r).Says t (.ok instances, r')) {i : Instance} (hi : i ∈ instances) :
    i.changedPositions = i.unequalPositions ∧
      ((∀ v ∈ i.values, v.hasNaN = false) → i.changed = [] ∧ ∀ active now options r,
        i.saveWith active now options r = pure ((.ok (), i), r)) := by
  have inStep : i.InStep := Dialogue.Always.of_says (how.always_run active r) said instances rfl i hi
  refine ⟨inStep, fun numbers => ?_⟩
  have clean := inStep.changedPositions_eq_nil numbers
  refine ⟨?_, i.saveWith_of_unchanged clean⟩
  rw [Instance.changed, clean]
  rfl

/-- readings of a level -/
def readings : Model where
  name := "Reading"
  table := "reading"
  database := defaultDatabase
  isAbstract := false
  description := none
  uniqueTogether := []
  indexes := []
  fields := [(Field.new "id" .bigInt).asKey, Field.new "level" .float]
  key := [0]

/-- the load of the reading with the key 1 -/
def loadReading : Synchronizing := .retrieve (.load { entity := ⟨0, readings⟩ } (.int 1))

def gauge : Database := ⟨defaultDatabase, 0⟩

/-- a database with one reading -/
def withReading (level : Double) : Unit → (call : Call) → call.Answer × Unit
  | _, .execute .. | _, .executeMany .. => (.ok 1, ())
  | _, .query .. => (.ok [⟨["id", "level"], [.int 1, .float level]⟩], ())
  | _, .begin on => (.ok ⟨on, 0⟩, ())
  | _, .script .. | _, .close _ | _, .commit _ | _, .rollback _ => (.ok (), ())
  | _, .release _ | _, .discard _ => ((), ())

/-- the reading as it is loaded -/
def reading (level : Double) : Instance :=
  ({ entity := ⟨0, readings⟩, values := [.int 1, .float level], persisted := true, database := some defaultDatabase } :
    Instance).synchronized

theorem loadReading_says (level : Double) :
    ∃ t r, (loadReading.run [] (.ofDatabases [gauge])).Says t (.ok [reading level], r) :=
  ⟨_, _, Dialogue.says_run (withReading level) () _⟩

def oneAndHalf : Double := ⟨0x3ff8000000000000⟩

theorem clean_after_reading : ∃ t r, (loadReading.run [] (.ofDatabases [gauge])).Says t (.ok [reading oneAndHalf], r) ∧
    (reading oneAndHalf).changed = [] ∧ ∀ active now options r,
      (reading oneAndHalf).saveWith active now options r = pure ((.ok (), reading oneAndHalf), r) := by
  obtain ⟨t, r, said⟩ := loadReading_says oneAndHalf
  have numbers : ∀ v ∈ (reading oneAndHalf).values, v.hasNaN = false := by
    intro v hv
    rcases List.mem_cons.mp hv with rfl | hv
    · rfl
    · obtain rfl := List.mem_singleton.mp hv
      decide
  exact ⟨t, r, said, (clean_after said List.mem_cons_self).2 numbers⟩

def nan : Double := ⟨0x7ff8000000000000⟩

/-- **What was just loaded may count as changed**: a reading whose level is no number is written back by a save right
after its load, and by every save after that. -/
theorem unclean_reading : ∃ t r t' r', (loadReading.run [] (.ofDatabases [gauge])).Says t (.ok [reading nan], r) ∧
    (reading nan).changed = ["level"] ∧ ((reading nan).save [] ⟨0, 0⟩ r).Says t' ((.ok (), reading nan), r') ∧
    t'.map (fun x => x.question) =
      [.execute gauge none "UPDATE \"reading\" SET \"level\" = $1 WHERE \"id\" = $2" [.float nan, .int 1]] := by
  refine ⟨_, _, _, _, Dialogue.says_run (withReading nan) () _, ?_, Dialogue.says_run (withReading nan) () _, ?_⟩
  · decide +kernel
  · rfl

end Synchronizing

end Tabula
