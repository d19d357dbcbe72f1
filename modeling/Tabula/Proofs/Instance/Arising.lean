import Tabula.Proofs.Instance.FailedSave
import Tabula.Proofs.Registry.Typed
/-!
# How instances arise

What a program does to its instances, and which it may come to hold.  An instance arises from a new one or from a row by
what succeeds: setting a field, inserting, updating, deleting, refreshing.  `Handling.always_arises`: whatever else the
registry and the databases do, every operation gives only instances that arise in this way, so what is to be shown of all
instances that are held is shown by an induction on `Instance.Arises`.
-/

namespace Tabula

open Dialogue (Always)

/-! ## Instances by the operations that made them -/

/-- an instance by the operations that made it; of the fields of a stored instance just those are set that `may` be -/
inductive Instance.Arises (models : Nat → Model) (may : Instance → String → Prop) : Instance → Prop where
  | new (number : Nat) (draw : Nat → Nat) : Arises models may (.new ⟨number, models number⟩ draw)
  | loaded {e : Entity} {database : String} {raw : List Value} {i : Instance} (numbered : e.IsNumbered models)
    (made : Instance.ofRow e database raw = .ok i) : Arises models may i
  | routedTo {i : Instance} (h : Arises models may i) (database : String) : Arises models may (i.routedTo database)
  | set {i j : Instance} {name : String} {v : Value} (h : Arises models may i)
    (allowed : i.persisted = true → may i name) (sets : i.set name v = .ok j) : Arises models may j
  | inserted {i filled j : Instance} {now : Instant} {cells : List Value} {positions : List Nat}
    (h : Arises models may i) (fills : i.filledIn now = .ok filled)
    (reads : Mapper.readBack filled cells positions = (.ok (), j)) (database : String) :
    Arises models may (j.storedIn database)
  | updated {i filled : Instance} {now : Instant} {options : SaveOptions} (h : Arises models may i)
    (stored : i.persisted = true) (prepares : i.prepared now options = .ok filled) :
    Arises models may filled.synchronized
  | forgotten {i : Instance} (h : Arises models may i) :
    Arises models may { i with persisted := false, snapshot := none }
  | refreshed {i fresh : Instance} {database : String} {raw : List Value} (h : Arises models may i)
    (made : Instance.ofRow i.entity database raw = .ok fresh) : Arises models may (i.refreshedFrom fresh)

namespace Instance

variable {models : Nat → Model} {may : Instance → String → Prop} {i j : Instance}

theorem persisted_set {name : String} {v : Value} (h : i.set name v = .ok j) : j.persisted = i.persisted := by
  obtain ⟨p, f, w, _, _, _, rfl, _⟩ := set_ok h
  rfl

/-- the fields of an instance that is not stored may all be set -/
theorem Arises.setAll (h : i.Arises models may) (new : i.persisted = false) {pairs : List (String × Value)}
    (sets : i.setAll pairs = .ok j) : j.Arises models may := by
  unfold Instance.setAll at sets
  induction pairs generalizing i with
  | nil => exact Outcome.pure_ok.mp sets ▸ h
  | cons p rest ih =>
    rw [List.foldlM_cons] at sets
    obtain ⟨k, first, sets⟩ := Outcome.bind_ok.mp sets
    have next : k.Arises models may := h.set (fun stored => by simp [new] at stored) first
    exact ih next ((persisted_set first).trans new) sets

theorem arises_ofPairs {number : Nat} {draw : Nat → Nat} {pairs : List (String × Value)}
    (made : ofPairs ⟨number, models number⟩ draw pairs = .ok i) : i.Arises models may := by
  obtain ⟨j, sets, made⟩ := Outcome.bind_ok.mp made
  obtain ⟨_, _, made⟩ := Outcome.bind_ok.mp made
  have new : (new ⟨number, models number⟩ draw).Arises models may := .new number draw
  exact Outcome.pure_ok.mp made ▸ new.setAll rfl sets

theorem Arises.completed (h : i.Arises models may) {now : Instant} {options : SaveOptions}
    (completed : i.Completed now options j) : j.Arises models may := by
  cases completed with
  | unchanged clean => exact h
  | inserted new fills reads => exact h.inserted fills reads _
  | updated stored prepares => exact h.updated stored prepares

/-- every instance that arises is one of a numbered entity -/
theorem Arises.numbered (h : i.Arises models may) : i.entity.IsNumbered models := by
  induction h with
  | new number draw => rfl
  | loaded numbered made => exact (isOf_ofRow made).entity ▸ numbered
  | routedTo _ database ih => exact ih
  | set _ _ sets ih =>
    obtain ⟨p, f, w, _, _, _, rfl, _⟩ := set_ok sets
    exact ih
  | inserted _ fills reads database ih =>
    obtain ⟨_, rfl⟩ := isVariant_inserted fills reads
    exact ih
  | updated _ _ prepares ih =>
    obtain ⟨_, rfl⟩ := isVariant_prepared prepares
    exact ih
  | forgotten _ ih => exact ih
  | refreshed _ made ih => exact ih

end Instance

/-! ## What a program may hold -/

/-- what a program does to its instances; a copy of an instance is the instance -/
inductive Handling where
  | new (number : Nat) (draw : Nat → Nat)
  | ofPairs (number : Nat) (draw : Nat → Nat) (pairs : List (String × Value))
  | routedTo (i : Instance) (database : String)
  | assign (i : Instance) (name : String) (v : Value)
  | save (i : Instance) (now : Instant) (options : SaveOptions)
  | delete (i : Instance)
  | refresh (i : Instance)
  | retrieve (how : Retrieval)
  | bulkCreate (m : Manager) (now : Instant) (instances : List Instance)

namespace Handling

variable {models : Nat → Model} {may : Instance → String → Prop} {active : Active} {r : Registry}

/-- does it; gives the instances as they are afterwards, whether it succeeds or fails -/
def run (models : Nat → Model) (active : Active) : Handling → Work (List Instance)
  | new number draw => return [.new ⟨number, models number⟩ draw]
  | ofPairs number draw pairs => return (Instance.ofPairs ⟨number, models number⟩ draw pairs).toOption.toList
  | routedTo i database => return [i.routedTo database]
  | assign i name v => return [(i.assigned name v).2]
  | save i now options => do return [(← i.saveWith active now options).2]
  | delete i => do return [(← i.delete active).2]
  | refresh i => do return [(← i.refresh active).2]
  | retrieve how => do return (← how.run active).toOption.getD []
  | bulkCreate m now instances => do return (← m.bulkCreate active now instances).toOption.getD []

/-- the instances that it is done to -/
def operands : Handling → List Instance
  | routedTo i _ | assign i _ _ | save i _ _ | delete i | refresh i => [i]
  | bulkCreate _ _ instances => instances
  | _ => []

/-- whether it is about a numbered entity -/
def IsNumbered (models : Nat → Model) : Handling → Prop
  | retrieve how => how.entity.IsNumbered models
  | bulkCreate m _ _ => m.entity.IsNumbered models
  | _ => True

/-- whether it sets no field of a stored instance but those that may be -/
def IsAllowed (may : Instance → String → Prop) : Handling → Prop
  | assign i name _ => i.persisted = true → may i name
  | _ => True

/-- a row is read as one of the entity that it is fetched for -/
theorem exists_ofRow_of_loads (typed : r.Typed models) {e : Entity} (numbered : e.IsNumbered models) {name : String}
    {i : Instance} (h : r.Loads e name i) : ∃ database raw, Instance.ofRow e database raw = .ok i := by
  obtain ⟨m, r', raw, found, read⟩ := h
  obtain ⟨_, _, on, used, own⟩ := typed.mapper numbered found
  exact ⟨_, _, own.entity ▸ read⟩

theorem forall_mem_given {p : Instance → Prop} {given : Outcome (List Instance)}
    (h : ∀ instances, given = .ok instances → ∀ i ∈ instances, p i) : ∀ i ∈ given.toOption.getD [], p i := by
  cases given with
  | error e => exact nofun
  | ok instances => exact h instances rfl

/-- **One step makes instances arise**: what is given arises if what it is done to does. -/
theorem always_arises (step : Handling) (typed : r.Typed models)
    (arises : ∀ i ∈ step.operands, i.Arises models may) (numbered : step.IsNumbered models)
    (allowed : step.IsAllowed may) :
    Always (fun x => x.2.Typed models ∧ ∀ i ∈ x.1, i.Arises models may) (step.run models active r) := by
  have single {i j : Instance} (h : j.Arises models may) (hi : i ∈ [j]) : i.Arises models may :=
    List.mem_singleton.mp hi ▸ h
  cases step with
  | new number draw => exact ⟨typed, fun i hi => single (.new number draw) hi⟩
  | ofPairs number draw pairs =>
    refine ⟨typed, fun i hi => ?_⟩
    cases made : Instance.ofPairs ⟨number, models number⟩ draw pairs with
    | error e =>
      rw [made] at hi
      exact absurd hi List.not_mem_nil
    | ok j =>
      rw [made] at hi
      exact single (Instance.arises_ofPairs made) hi
  | routedTo i database => exact ⟨typed, fun j hj => single ((arises i List.mem_cons_self).routedTo database) hj⟩
  | assign i name v =>
    have before := arises i List.mem_cons_self
    refine ⟨typed, fun j hj => single ?_ hj⟩
    rcases i.assigned_cases name v with ⟨k, sets, left⟩ | ⟨err, left⟩
    · rw [left]
      exact before.set allowed sets
    · rw [left]
      exact before
  | save i now options =>
    have before := arises i List.mem_cons_self
    unfold run
    rw [Work.always_bind]
    refine ((Instance.always_typed_saveWith typed before.numbered).and
      ((i.always_saveWith active now options r).and (i.always_completed active now options r))).mono ?_
    rintro ⟨⟨saved, j⟩, r'⟩ ⟨typed', kept, completed⟩
    -- a save that fails leaves the instance, values filled in for it included
    refine ⟨typed', fun k hk => single ?_ hk⟩
    cases saved with
    | error e => exact (kept e rfl : j = i) ▸ before
    | ok _ => exact before.completed (completed rfl)
  | delete i =>
    have before := arises i List.mem_cons_self
    unfold run
    rw [Work.always_bind]
    refine ((typed.always_delete before.numbered active).and (i.always_delete active r)).mono ?_
    rintro ⟨⟨deleted, j⟩, r'⟩ ⟨typed', kept, forgotten⟩
    refine ⟨typed', fun k hk => single ?_ hk⟩
    cases deleted with
    | error e => exact (kept e rfl : j = i) ▸ before
    | ok n => exact (forgotten n rfl : j = _) ▸ before.forgotten
  | refresh i =>
    have before := arises i List.mem_cons_self
    unfold run
    rw [Work.always_bind]
    refine ((typed.always_refresh before.numbered active).and (i.always_refresh active r)).mono ?_
    rintro ⟨⟨refreshed, j⟩, r'⟩ ⟨typed', kept, loaded⟩
    refine ⟨typed', fun k hk => single ?_ hk⟩
    cases refreshed with
    | error e => exact (kept e rfl : j = i) ▸ before
    | ok _ =>
      -- the row is one of the instance's entity since the mapper is
      obtain ⟨fresh, loads, same⟩ := loaded rfl
      obtain ⟨_, _, made⟩ := exists_ofRow_of_loads typed before.numbered loads
      exact (same : j = _) ▸ before.refreshed made
  | retrieve how =>
    unfold run
    rw [Work.always_bind]
    refine ((typed.always_retrieve how numbered active).and (how.always_loads active r)).mono ?_
    rintro ⟨found, r'⟩ ⟨typed', loads⟩
    refine ⟨typed', forall_mem_given fun instances ok i hi => ?_⟩
    obtain ⟨_, _, made⟩ := exists_ofRow_of_loads typed numbered (loads instances ok i hi)
    exact .loaded numbered made
  | bulkCreate m now instances =>
    unfold run
    rw [Work.always_bind]
    refine ((typed.always_bulkCreate numbered active now instances).and
      (m.always_fills_bulkCreate active now instances r)).mono ?_
    rintro ⟨made, r'⟩ ⟨typed', inserted⟩
    refine ⟨typed', forall_mem_given fun instances ok i hi => ?_⟩
    obtain ⟨j, filled, hj, fills, rfl⟩ := inserted instances ok i hi
    have unread : Mapper.readBack filled [] [] = (.ok (), filled) := rfl
    exact (arises j hj).inserted fills unread _

end Handling

/-- a registry, and instances in any of the states that a program may bring them into.  What is changed in place stays
beside the result, since it may have been copied before -/
inductive Held (models : Nat → Model) : Registry → List Instance → Prop where
  | start (databases : List Database) : Held models (.ofDatabases databases) []
  | attach {r : Registry} {held : List Instance} (h : Held models r held) (on : Database) :
    Held models (r.attach on) held
  | close {r r' : Registry} {held : List Instance} {t : List (Dialogue.Exchange Call Call.Answer)} {closed : Outcome Unit}
    (h : Held models r held) (said : (Registry.close r).Says t (closed, r')) : Held models r' held
  | handle {r r' : Registry} {held given : List Instance} {step : Handling} {active : Active}
    {t : List (Dialogue.Exchange Call Call.Answer)} (h : Held models r held) (own : ∀ i ∈ step.operands, i ∈ held)
    (numbered : step.IsNumbered models) (said : (step.run models active r).Says t (given, r')) :
    Held models r' (given ++ held)

/-- the same for a program that sets, of the fields of stored instances, just those that `may` be -/
inductive Tended (models : Nat → Model) (may : Instance → String → Prop) : Registry → List Instance → Prop where
  | start (databases : List Database) : Tended models may (.ofDatabases databases) []
  | attach {r : Registry} {held : List Instance} (h : Tended models may r held) (on : Database) :
    Tended models may (r.attach on) held
  | close {r r' : Registry} {held : List Instance} {t : List (Dialogue.Exchange Call Call.Answer)} {closed : Outcome Unit}
    (h : Tended models may r held) (said : (Registry.close r).Says t (closed, r')) : Tended models may r' held
  | handle {r r' : Registry} {held given : List Instance} {step : Handling} {active : Active}
    {t : List (Dialogue.Exchange Call Call.Answer)} (h : Tended models may r held)
    (own : ∀ i ∈ step.operands, i ∈ held) (numbered : step.IsNumbered models) (allowed : step.IsAllowed may)
    (said : (step.run models active r).Says t (given, r')) : Tended models may r' (given ++ held)

section Programs

variable {models : Nat → Model} {may : Instance → String → Prop} {r : Registry} {held : List Instance}

/-- **Whatever is held arises.** -/
theorem Tended.arises (h : Tended models may r held) : r.Typed models ∧ ∀ i ∈ held, i.Arises models may := by
  induction h with
  | start databases => exact ⟨Registry.typed_ofDatabases databases, nofun⟩
  | attach _ on ih => exact ⟨ih.1.attach on, ih.2⟩
  | close _ said ih =>
    refine ⟨?_, ih.2⟩
    -- whatever closing the databases gives, no mapper is left
    obtain ⟨_, closed, _, _, _, rest⟩ := Dialogue.says_bind.mp said
    obtain ⟨_, same⟩ := Dialogue.says_pure.mp rest
    cases same
    exact Registry.typed_of_empty rfl
  | @handle _ _ held given step _ _ _ own numbered allowed said ih =>
    have made := Always.of_says (step.always_arises ih.1 (fun i hi => ih.2 i (own i hi)) numbered allowed) said
    refine ⟨made.1, fun i hi => ?_⟩
    rcases List.mem_append.mp hi with hi | hi
    · exact made.2 i hi
    · exact ih.2 i hi

/-- a program that may set any field -/
theorem Held.tended (h : Held models r held) : Tended models (fun _ _ => True) r held := by
  induction h with
  | start databases => exact .start databases
  | attach _ on ih => exact ih.attach on
  | close _ said ih => exact ih.close said
  | @handle _ _ _ _ step _ _ _ own numbered said ih =>
    have allowed : step.IsAllowed fun _ _ => True := by
      cases step <;> first | exact trivial | exact fun _ => trivial
    exact ih.handle own numbered allowed said

/-- what is held by a program that tends to its fields is held -/
theorem Held.of_tended (h : Tended models may r held) : Held models r held := by
  induction h with
  | start databases => exact .start databases
  | attach _ on ih => exact ih.attach on
  | close _ said ih => exact ih.close said
  | handle _ own numbered _ said ih => exact ih.handle own numbered said

end Programs

end Tabula
