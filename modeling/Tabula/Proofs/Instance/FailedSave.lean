import Tabula.Instance.Store
import Tabula.Proofs.Dialogue
import Tabula.Proofs.Outcome
/-!
# Saves that fail

On its way a save changes the values of the instance: it fills in automatic values and reads back what the database
made.  Whatever goes wrong, a save that fails gives the instance back as it was.
-/

namespace Tabula

open Dialogue (Always)

namespace Instance

/-- the instance with other values -/
def IsVariant (i j : Instance) : Prop := ∃ vs, j = i.withValues vs

theorem IsVariant.refl (i : Instance) : i.IsVariant i := ⟨i.values, rfl⟩

theorem IsVariant.trans {i j k : Instance} (h : i.IsVariant j) (h' : j.IsVariant k) : i.IsVariant k := by
  obtain ⟨vs, rfl⟩ := h
  obtain ⟨ws, rfl⟩ := h'
  exact ⟨ws, rfl⟩

theorem isVariant_withAt (i : Instance) (position : Nat) (v : Value) : i.IsVariant (i.withAt position v) := ⟨_, rfl⟩

/-- with its old values back, an instance is as it was -/
theorem IsVariant.restored {i j : Instance} (h : i.IsVariant j) : j.withValues i.values = i := by
  obtain ⟨vs, rfl⟩ := h
  rfl

theorem isVariant_foldl (i : Instance) (filled : List (Nat × Value)) :
    i.IsVariant (filled.foldl (fun i v => i.withAt v.1 v.2) i) := by
  induction filled generalizing i with
  | nil => exact .refl i
  | cons v rest ih => exact (i.isVariant_withAt v.1 v.2).trans (ih _)

theorem isVariant_filledIn {i filled : Instance} {now : Instant} (h : i.filledIn now = .ok filled) :
    i.IsVariant filled := by
  obtain ⟨values, _, h⟩ := Outcome.bind_ok.mp h
  obtain rfl := Outcome.pure_ok.mp h
  exact i.isVariant_foldl values

theorem isVariant_prepared {i filled : Instance} {now : Instant} {options : SaveOptions}
    (h : i.prepared now options = .ok filled) : i.IsVariant filled := by
  unfold prepared at h
  split at h
  · injection h with h
    exact h ▸ .refl i
  · exact isVariant_filledIn h

theorem isVariant_readBack (i : Instance) (cells : List Value) (positions : List Nat) :
    i.IsVariant (Mapper.readBack i cells positions).2 := by
  induction positions generalizing i cells with
  | nil => exact .refl i
  | cons p rest ih =>
    unfold Mapper.readBack
    split
    · exact ih _ _
    · split
      · exact .refl i
      · exact (i.isVariant_withAt p _).trans (ih _ _)

end Instance

namespace Mapper

/-- an insertion changes nothing but values -/
theorem always_insert (m : Mapper) (active : Active) (i : Instance) :
    Always (fun r => i.IsVariant r.1.2) (m.insert active i) := by
  unfold insert
  simp only
  split
  · exact .refl i
  · split
    · rw [Dialogue.always_bind]
      exact fun answer => .refl i
    · rw [Dialogue.always_bind]
      intro answer
      match answer with
      | .error e => exact .refl i
      | .ok [] => exact .refl i
      | .ok (row :: _) => exact i.isVariant_readBack row.values m.model.returningPositions

end Mapper

namespace Instance

/-- what a save may give: an instance as it was, if it fails -/
def KeptOnError (i : Instance) (result : Outcome Unit × Instance) : Prop :=
  ∀ e, result.1 = .error e → result.2 = i

theorem always_insertRow (i : Instance) (m : Mapper) (active : Active) (now : Instant) :
    Always (fun r => i.KeptOnError r.1) (i.insertRow m active now) := by
  unfold insertRow
  split
  · exact fun _ _ => rfl
  · next filled hf =>
    have variant := isVariant_filledIn hf
    split
    · exact fun _ _ => variant.restored
    · rw [Dialogue.always_bind]
      refine (m.always_insert active filled).mono ?_
      rintro ⟨⟨answer, j⟩, m⟩ hj
      cases answer with
      | ok _ => exact fun e he => by simp at he
      | error e => exact fun _ _ => (variant.trans hj).restored

theorem keptOnError_concluded {i filled : Instance} (h : i.IsVariant filled) (answer : Outcome Nat) :
    i.KeptOnError (concluded i filled answer) := by
  intro e he
  match answer with
  | .ok 0 => exact h.restored
  | .ok (n + 1) => simp [concluded] at he
  | .error _ => exact h.restored

theorem always_updateRow (i : Instance) (m : Mapper) (active : Active) (now : Instant) (options : SaveOptions)
    (positions : List Nat) : Always (fun r => i.KeptOnError r.1) (i.updateRow m active now options positions) := by
  unfold updateRow
  split
  · exact fun _ _ => rfl
  · next filled hf =>
    rw [Dialogue.always_bind]
    refine .of_forall ?_ _
    rintro ⟨answer, m⟩
    exact keptOnError_concluded (isVariant_prepared hf) answer

theorem always_saveWith (i : Instance) (active : Active) (now : Instant) (options : SaveOptions) (r : Registry) :
    Always (fun result => i.KeptOnError result.1) (i.saveWith active now options r) := by
  unfold saveWith
  split
  · exact fun _ _ => rfl
  · split
    · exact fun _ _ => rfl
    · split
      · exact fun _ _ => rfl
      · simp only
        split
        · rw [Dialogue.always_bind]
          exact i.always_updateRow ..
        · rw [Dialogue.always_bind]
          exact i.always_insertRow ..

/-- **A failed save changes nothing in memory.**  Whatever the registry holds and however the calls on databases are
answered: if a save ends with an error, the values of the instance, its mark of being stored, its snapshot and its
database are those from before. -/
theorem eq_of_save_failed {σ : Type} {answer : σ → (call : Call) → call.Answer × σ} {s : σ} {i j : Instance}
    {active : Active} {now : Instant} {options : SaveOptions} {r r' : Registry} {e : Error}
    (h : (Dialogue.run answer s (i.saveWith active now options r)).1 = ((.error e, j), r')) : j = i := by
  have kept := (i.always_saveWith active now options r).run answer s
  rw [h] at kept
  exact kept e rfl

/-- counters with a version -/
def counters : Model where
  name := "Counter"
  table := "counter"
  database := defaultDatabase
  isAbstract := false
  description := none
  uniqueTogether := []
  indexes := []
  fields := [(Field.new "id" .bigInt).asKey, Field.new "hits" .bigInt, Field.new "rev" .version]
  key := [0]

/-- a stored counter that has been counted up -/
def counted : Instance where
  entity := ⟨0, counters⟩
  values := [.int 1, .int 5, .int 2]
  persisted := true
  snapshot := some [.int 1, .int 4, .int 2]

/-- a database without rows -/
def withoutRows : Unit → (call : Call) → call.Answer × Unit
  | _, .execute .. | _, .executeMany .. => (.ok 0, ())
  | _, .query .. => (.ok [], ())
  | _, .begin on => (.ok ⟨on, 0⟩, ())
  | _, .script .. | _, .close _ | _, .commit _ | _, .rollback _ => (.ok (), ())
  | _, .release _ | _, .discard _ => ((), ())

theorem eq_of_save_failed_counted : ∃ e j r',
    (Dialogue.run withoutRows () (counted.saveWith [] ⟨0, 0⟩ {} (.ofDatabases [⟨defaultDatabase, 0⟩]))).1 =
      ((.error e, j), r') ∧ e.kind = .stale ∧ j = counted := by
  have failed : (match (Dialogue.run withoutRows ()
      (counted.saveWith [] ⟨0, 0⟩ {} (.ofDatabases [⟨defaultDatabase, 0⟩]))).1.1.1 with
      | .error e => some e.kind
      | .ok _ => none) = some .stale := by decide +kernel
  match h : (Dialogue.run withoutRows ()
      (counted.saveWith [] ⟨0, 0⟩ {} (.ofDatabases [⟨defaultDatabase, 0⟩]))).1 with
  | ((.error e, j), r') =>
    rw [h] at failed
    exact ⟨e, j, r', rfl, Option.some.inj failed, eq_of_save_failed h⟩
  | ((.ok _, j), r') =>
    rw [h] at failed
    exact absurd failed (by simp)

end Instance

end Tabula
