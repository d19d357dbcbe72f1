import Tabula.Proofs.Instance.Results
import Tabula.Proofs.Mapper.Texts
import Tabula.Proofs.Registry
/-!
# Registries whose mappers are those of their entities

A program numbers its entities.  A registry starts without mappers, makes one for an entity under the entity's number,
and puts back what a mapper has learnt where the mapper was; so a mapper that is found under the number of an entity is
one of that entity.  Every operation on instances leaves it so.
-/

namespace Tabula

open Dialogue (Always)

variable {models : Nat → Model} {e : Entity} {r r' : Registry} {m m' : Mapper} {name : String}

/-- whether the mappers of a registry are those of the entities under whose numbers they are kept, each with a number
of its own -/
structure Registry.Typed (models : Nat → Model) (r : Registry) : Prop where
  kept : ∀ x ∈ r.mappers, ∃ on used, x.2.Keeps ⟨x.1.entity, models x.1.entity⟩ on x.2.number used
  below : ∀ x ∈ r.mappers, x.2.number < r.nextMapper
  distinct : (r.mappers.map fun x => x.2.number).Nodup

/-- whether an entity is the one of its number -/
def Entity.IsNumbered (models : Nat → Model) (e : Entity) : Prop := e = ⟨e.number, models e.number⟩

/-- whether a mapper is one of an entity, with a given number -/
def Mapper.IsOf (m : Mapper) (e : Entity) (number : Nat) : Prop := ∃ on used, m.Keeps e on number used

namespace Registry

/-- a registry without mappers -/
theorem typed_of_empty (h : r.mappers = []) : r.Typed models := by
  refine ⟨?_, ?_, ?_⟩ <;> rw [h]
  · exact nofun
  · exact nofun
  · exact List.nodup_nil

theorem Typed.attach (h : r.Typed models) (on : Database) : (r.attach on).Typed models where
  kept := fun x hx => h.kept x (List.mem_of_mem_filter hx)
  below := fun x hx => h.below x (List.mem_of_mem_filter hx)
  distinct := (List.filter_sublist.map _).nodup h.distinct

theorem typed_ofDatabases (databases : List Database) : (ofDatabases databases).Typed models := by
  have attached : ∀ (r : Registry), r.Typed models → (databases.foldl Registry.attach r).Typed models := by
    induction databases with
    | nil => exact fun _ h => h
    | cons on rest ih => exact fun _ h => ih _ (h.attach on)
  exact attached {} (typed_of_empty rfl)

theorem Typed.numbered (h : r.Typed models) : r.Numbered := ⟨h.below, h.distinct⟩

/-- the mapper that is found or made is one of the entity, and is kept where it is found -/
theorem Typed.mapper (h : r.Typed models) (numbered : e.IsNumbered models) (found : r.mapper e name = .ok (m, r')) :
    r'.Typed models ∧ (⟨e.number, name⟩, m) ∈ r'.mappers ∧ m.IsOf e m.number := by
  unfold Registry.mapper at found
  simp only at found
  split at found
  · next m₀ kept =>
    cases found
    have mem : (⟨e.number, name⟩, m) ∈ r.mappers := Keyed.mem_of_lookup kept
    have own := h.kept _ mem
    exact ⟨h, mem, by rw [numbered]; exact own⟩
  · obtain ⟨on, _, found⟩ := Outcome.bind_ok.mp found
    cases found
    -- the new mapper gets the next number, which is above all others
    have fresh := Mapper.Keeps.fresh e on r.nextMapper
    have next := h.numbered.make ⟨e.number, name⟩ fresh.number
    refine ⟨⟨fun x hx => ?_, next.below, next.distinct⟩, List.mem_append_right _ (List.mem_singleton.mpr rfl), on, [],
      fresh⟩
    rcases List.mem_append.mp hx with hx | hx
    · exact h.kept x hx
    · obtain rfl := List.mem_singleton.mp hx
      exact ⟨on, [], by rw [← numbered]; exact fresh⟩

/-- what a mapper has learnt takes its place -/
theorem Typed.keep (h : r.Typed models) (numbered : e.IsNumbered models) (mem : (⟨e.number, name⟩, m) ∈ r.mappers)
    (own : m'.IsOf e m.number) : (r.keep m').Typed models := by
  obtain ⟨on, used, own⟩ := own
  have number : m'.number = m.number := own.number
  refine ⟨fun x hx => ?_, (h.numbered.keep m').below, (h.numbered.keep m').distinct⟩
  obtain ⟨y, hy, rfl⟩ := List.mem_map.mp hx
  by_cases same : y.2.number = m'.number
  · -- a number is that of one mapper only, so it is this one that is replaced
    have place : y = (⟨e.number, name⟩, m) := h.numbered.eq_of_number hy mem (same.trans number)
    subst place
    rw [if_pos same]
    exact ⟨on, used, by rw [number]; exact numbered ▸ own⟩
  · rw [if_neg same]
    exact h.kept y hy

/-! ## Operations -/

/-- work of a mapper that leaves it one of its entity -/
theorem Typed.always_withMapper {α : Type} {f : Mapper → Talk (Outcome α × Mapper)} (h : r.Typed models)
    (numbered : e.IsNumbered models) (own : ∀ m number, m.IsOf e number → Always (fun x => x.2.IsOf e number) (f m)) :
    Always (fun x => x.2.Typed models) (withMapper e name f r) := by
  unfold withMapper
  split
  · exact h
  · next m r' found =>
    obtain ⟨h', mem, isOf⟩ := h.mapper numbered found
    rw [Dialogue.always_bind]
    exact (own m m.number isOf).mono fun x learnt => h'.keep numbered mem learnt

theorem Typed.always_onMapper {α : Type} {f : Mapper → Talk (Outcome α)} (h : r.Typed models)
    (numbered : e.IsNumbered models) : Always (fun x => x.2.Typed models) (onMapper e name f r) := by
  refine h.always_withMapper numbered fun m number isOf => ?_
  rw [Dialogue.always_bind]
  exact .of_forall (fun _ => isOf) _

theorem Typed.always_load (h : r.Typed models) (numbered : e.IsNumbered models) (active : Active) (key : List Value) :
    Always (fun x => x.2.Typed models) (withMapper e name (fun m => m.load active key) r) :=
  h.always_withMapper numbered fun _ _ ⟨on, used, own⟩ => (own.always_load active key).mono fun _ h => ⟨on, used, h⟩

theorem Typed.always_loadKey (h : r.Typed models) {m : Manager} (numbered : m.entity.IsNumbered models)
    (active : Active) (key : List Value) : Always (fun x => x.2.Typed models) (m.loadKey active key r) := by
  unfold Manager.loadKey
  rw [Work.always_bind]
  exact h.always_load numbered active key

theorem Typed.always_retrieve (h : r.Typed models) (how : Retrieval) (numbered : how.entity.IsNumbered models)
    (active : Active) : Always (fun x => x.2.Typed models) (how.run active r) := by
  cases how with
  | fetchAll q =>
    unfold Retrieval.run Query.fetchAll
    rw [Work.always_bind]
    exact h.always_onMapper numbered
  | fetchOne q =>
    unfold Retrieval.run Query.fetchOne
    rw [Work.always_bind, Work.always_bind]
    exact h.always_onMapper numbered
  | fetchOptional q =>
    unfold Retrieval.run Query.fetchOptional
    rw [Work.always_bind, Work.always_bind]
    exact h.always_onMapper numbered
  | load m key =>
    unfold Retrieval.run Manager.load
    rw [Work.always_bind]
    exact h.always_loadKey numbered active _
  | getByKey m named =>
    unfold Retrieval.run Manager.getByKey
    rw [Work.always_bind]
    cases Manager.namedKey m.entity.model named with
    | error err => exact h
    | ok key => exact h.always_loadKey numbered active key

theorem Typed.always_bulkCreate (h : r.Typed models) {m : Manager} (numbered : m.entity.IsNumbered models)
    (active : Active) (now : Instant) (instances : List Instance) :
    Always (fun x => x.2.Typed models) (m.bulkCreate active now instances r) := by
  unfold Manager.bulkCreate
  cases instances.mapM (Manager.readied now) with
  | error err => exact h
  | ok ready =>
    simp only
    rw [Work.always_bind]
    exact h.always_withMapper numbered fun _ _ ⟨on, used, own⟩ =>
      (own.always_insertAll active ready).mono fun _ h => ⟨on, used, h⟩

theorem Typed.always_delete (h : r.Typed models) {i : Instance} (numbered : i.entity.IsNumbered models)
    (active : Active) : Always (fun x => x.2.Typed models) (i.delete active r) := by
  unfold Instance.delete
  split
  · exact h
  · rw [Dialogue.always_bind]
    refine (h.always_withMapper numbered fun _ _ ⟨on, used, own⟩ =>
      (own.always_delete active i).mono fun _ h => ⟨on, used, h⟩).mono ?_
    rintro ⟨answer, r'⟩ typed
    cases answer with
    | ok n => exact typed
    | error err => exact typed

theorem Typed.always_refresh (h : r.Typed models) {i : Instance} (numbered : i.entity.IsNumbered models)
    (active : Active) : Always (fun x => x.2.Typed models) (i.refresh active r) := by
  unfold Instance.refresh
  rw [Dialogue.always_bind]
  refine (h.always_load numbered active i.keyValues).mono ?_
  rintro ⟨answer, r'⟩ typed
  match answer with
  | .error err | .ok none | .ok (some fresh) => exact typed

end Registry

namespace Instance

variable {i : Instance} {number : Nat} {active : Active} {now : Instant} {options : SaveOptions}

theorem always_isOf_insertRow (own : m.IsOf e number) :
    Always (fun x => x.2.IsOf e number) (i.insertRow m active now) := by
  unfold insertRow
  split
  · exact own
  · split
    · exact own
    · obtain ⟨on, used, own⟩ := own
      rw [Dialogue.always_bind]
      refine (own.always_insert active _).mono ?_
      rintro ⟨⟨answer, j⟩, m⟩ own
      cases answer with
      | ok _ => exact ⟨on, used, own⟩
      | error err => exact ⟨on, used, own⟩

theorem always_isOf_updateRow (own : m.IsOf e number) (positions : List Nat) :
    Always (fun x => x.2.IsOf e number) (i.updateRow m active now options positions) := by
  unfold updateRow
  split
  · exact own
  · obtain ⟨on, used, own⟩ := own
    rw [Dialogue.always_bind]
    exact (own.always_update active _ _ _).mono fun x own => ⟨on, _, own⟩

theorem always_typed_saveWith (h : r.Typed models) (numbered : i.entity.IsNumbered models) :
    Always (fun x => x.2.Typed models) (i.saveWith active now options r) := by
  unfold saveWith
  split
  · exact h
  · split
    · exact h
    · split
      · exact h
      · next m r' found =>
        obtain ⟨h', mem, own⟩ := h.mapper numbered found
        simp only
        split
        · rw [Dialogue.always_bind]
          exact (always_isOf_updateRow own _).mono fun x learnt => h'.keep numbered mem learnt
        · rw [Dialogue.always_bind]
          exact (always_isOf_insertRow own).mono fun x learnt => h'.keep numbered mem learnt

end Instance

end Tabula
