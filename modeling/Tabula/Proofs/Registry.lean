import Tabula.Proofs.Dialogue
import Tabula.Registry
import Mathlib.Data.List.Nodup
/-!
# Registries that serve an entity

A registry serves an entity on a database if the database is attached and the mapper kept for the two, if any, is one
of theirs: the texts it keeps are those it would make anew.  Finding the mapper, using it and keeping what it has
learnt leave it so.
-/

namespace Tabula

/-- whether a mapper is one of an entity on a database, with no text kept but its own -/
structure Mapper.IsFor (m : Mapper) (e : Entity) (db : Database) : Prop where
  entity : m.entity = e
  database : m.database = db
  selectText : ∀ text, m.selectText = some text → text = e.model.selectRow.text
  updateTexts : ∀ shape text, m.updateTexts.lookup shape = some text →
    text = (e.model.updateRow shape.fields shape.conditions).text

/-- whether a registry finds or makes the mapper of an entity on a database -/
structure Registry.Serves (r : Registry) (e : Entity) (db : Database) : Prop where
  isOpen : r.isOpen = true
  attached : Keyed.find? db.name r.databases = some db
  mappers : ∀ m, r.mappers.lookup ⟨e.number, db.name⟩ = some m → m.IsFor e db

variable {e : Entity} {db : Database}

namespace Mapper

variable {m : Mapper}

theorem IsFor.model (h : m.IsFor e db) : m.model = e.model := congrArg Entity.model h.entity

theorem IsFor.fetch_fst (h : m.IsFor e db) : m.fetch.1 = e.model.selectRow.text := by
  cases kept : m.selectText with
  | none => simp [fetch, kept, h.model]
  | some text => simp [fetch, kept, h.selectText text kept]

theorem IsFor.fetch_snd (h : m.IsFor e db) : m.fetch.2.IsFor e db := by
  refine ⟨h.entity, h.database, fun text kept => ?_, h.updateTexts⟩
  injection kept with kept
  exact kept ▸ h.fetch_fst

theorem IsFor.updating (h : m.IsFor e db) (shape : UpdateShape) :
    (m.updating shape).1 = (e.model.updateRow shape.fields shape.conditions).text ∧
      (m.updating shape).2.IsFor e db := by
  unfold Mapper.updating
  split
  · next text kept => exact ⟨h.updateTexts shape text kept, h⟩
  · refine ⟨by rw [h.model], h.entity, h.database, h.selectText, fun other text kept => ?_⟩
    rw [List.lookup_append, Option.or_eq_some_iff] at kept
    rcases kept with kept | ⟨_, kept⟩
    · exact h.updateTexts other text kept
    · rw [List.lookup_cons] at kept
      split at kept
      · next same =>
        injection kept with kept
        rw [← kept, eq_of_beq same, h.model]
      · simp at kept

end Mapper

/-- a part of some work leaves its registry to the next -/
theorem Work.run_bind {α β σ : Type} (answer : σ → (call : Call) → call.Answer × σ) (s : σ) (x : Work α)
    (f : α → Work β) (r : Registry) : Dialogue.run answer s ((x >>= f) r) =
      let done := Dialogue.run answer s (x r)
      Dialogue.run answer done.2 (f done.1.1 done.1.2) :=
  Dialogue.run_bind answer s (x r) _

namespace Registry

variable {r : Registry}

theorem Serves.mapper (h : r.Serves e db) :
    ∃ m r', r.mapper e db.name = .ok (m, r') ∧ m.IsFor e db ∧ r'.Serves e db := by
  cases kept : r.mappers.lookup ⟨e.number, db.name⟩ with
  | some m =>
    refine ⟨m, r, ?_, h.mappers m kept, h⟩
    simp only [Registry.mapper, kept]
  | none =>
    have found : r.database db.name = .ok db := by simp [database, h.isOpen, h.attached]
    let m : Mapper := { entity := e, database := db, number := r.nextMapper }
    have made : m.IsFor e db := ⟨rfl, rfl, by simp [m], by simp [m]⟩
    refine ⟨m, { r with mappers := r.mappers ++ [(⟨e.number, db.name⟩, m)], nextMapper := r.nextMapper + 1 }, ?_, made,
      h.isOpen, h.attached, fun x hx => ?_⟩
    · simp only [Registry.mapper, kept, found]
      rfl
    · simp only [List.lookup_append, kept, Option.none_or, List.lookup_cons, beq_self_eq_true] at hx
      injection hx with hx
      exact hx ▸ made

/-- work of the mapper, and what becomes of the registry -/
theorem Serves.onMapper (h : r.Serves e db) : ∃ (m : Mapper) (after : Registry), m.IsFor e db ∧
    ∀ {α : Type} (f : Mapper → Talk (Outcome α)), Registry.onMapper e db.name f r = (do return (← f m, after)) := by
  obtain ⟨m, r', found, own, _⟩ := h.mapper
  refine ⟨m, r'.keep m, own, fun f => ?_⟩
  simp only [Registry.onMapper, withMapper, found, bind_assoc, pure_bind]

theorem lookup_keep (m : Mapper) (key : MapperKey) :
    (r.keep m).mappers.lookup key = (r.mappers.lookup key).map fun x => if x.number = m.number then m else x := by
  unfold keep
  induction r.mappers with
  | nil => rfl
  | cons x rest ih =>
    obtain ⟨k, x⟩ := x
    by_cases hn : x.number = m.number <;> cases hk : key == k <;> simp [List.lookup_cons, hn, hk, ih]

theorem Serves.keep (h : r.Serves e db) {m : Mapper} (hm : m.IsFor e db) : (r.keep m).Serves e db := by
  refine ⟨h.isOpen, h.attached, fun x hx => ?_⟩
  rw [lookup_keep] at hx
  obtain ⟨y, hy, rfl⟩ := Option.map_eq_some_iff.mp hx
  split
  · exact hm
  · exact h.mappers y hy

/-- a registry with just a database serves every entity on it -/
theorem serves_ofDatabases (e : Entity) (db : Database) : (ofDatabases [db]).Serves e db := by
  refine ⟨rfl, ?_, by simp [ofDatabases, attach]⟩
  simp [ofDatabases, attach, Keyed.insert, Keyed.find?]

/-! ## Numbers of mappers -/

/-- whether each mapper of a registry has a number of its own, which no mapper made later will have -/
structure Numbered (r : Registry) : Prop where
  below : ∀ x ∈ r.mappers, x.2.number < r.nextMapper
  distinct : (r.mappers.map fun x => x.2.number).Nodup

theorem numbers_keep (r : Registry) (m : Mapper) :
    (r.keep m).mappers.map (fun x => x.2.number) = r.mappers.map fun x => x.2.number := by
  rw [keep, List.map_map]
  refine List.map_congr_left fun x _ => ?_
  by_cases same : x.2.number = m.number <;> simp [same]

theorem Numbered.keep (h : r.Numbered) (m : Mapper) : (r.keep m).Numbered := by
  refine ⟨fun x hx => ?_, by rw [numbers_keep]; exact h.distinct⟩
  have mem : x.2.number ∈ (r.keep m).mappers.map fun x => x.2.number := List.mem_map_of_mem hx
  rw [numbers_keep] at mem
  obtain ⟨y, hy, same⟩ := List.mem_map.mp mem
  exact same ▸ h.below y hy

theorem Numbered.make (h : r.Numbered) (key : MapperKey) {m : Mapper} (next : m.number = r.nextMapper) :
    Numbered { r with mappers := r.mappers ++ [(key, m)], nextMapper := r.nextMapper + 1 } := by
  refine ⟨fun x hx => ?_, ?_⟩
  · rcases List.mem_append.mp hx with hx | hx
    · exact Nat.lt_succ_of_lt (h.below x hx)
    · obtain rfl := List.mem_singleton.mp hx
      exact next ▸ Nat.lt_succ_self _
  · rw [List.map_append, List.nodup_append_comm]
    refine List.nodup_cons.mpr ⟨fun hm => ?_, h.distinct⟩
    obtain ⟨x, hx, same⟩ := List.mem_map.mp hm
    exact absurd (h.below x hx) (Nat.not_lt.mpr (Nat.le_of_eq (next.symm.trans same.symm)))

theorem Numbered.filter (h : r.Numbered) (p : MapperKey × Mapper → Bool) :
    Numbered { r with mappers := r.mappers.filter p } :=
  ⟨fun x hx => h.below x (List.mem_of_mem_filter hx), (List.filter_sublist.map _).nodup h.distinct⟩

/-- a number is that of one mapper only -/
theorem Numbered.eq_of_number (h : r.Numbered) {x y : MapperKey × Mapper} (hx : x ∈ r.mappers) (hy : y ∈ r.mappers)
    (same : x.2.number = y.2.number) : x = y :=
  List.inj_on_of_nodup_map h.distinct hx hy same

end Registry

end Tabula
