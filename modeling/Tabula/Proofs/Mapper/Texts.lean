import Tabula.Mapper
import Tabula.Proofs.Dialogue
import Tabula.Proofs.Keyed
import Mathlib.Data.List.Dedup
/-!
# The texts that a mapper keeps

A mapper keeps the text of a statement once it has made it.  `Keeps` says that whatever it keeps is what it would make
anew, so that no caller can tell; and that its texts of updates are as many as the different shapes of the updates it
has been asked for.  Every operation on rows leaves it so.
-/

namespace Tabula

open Dialogue (Always)

/-- whether a mapper is one of an entity on a database, with no text but its own and a text for each shape of the
updates so far -/
structure Mapper.Keeps (m : Mapper) (e : Entity) (on : Database) (number : Nat) (used : List UpdateShape) : Prop where
  entity : m.entity = e
  database : m.database = on
  number : m.number = number
  insertText : ∀ text, m.insertText = some text → text = e.model.insertRow.text
  deleteText : ∀ text, m.deleteText = some text → text = e.model.deleteRow.text
  selectText : ∀ text, m.selectText = some text → text = e.model.selectRow.text
  updateTexts : ∀ x ∈ m.updateTexts, x.2 = (e.model.updateRow x.1.fields x.1.conditions).text
  distinct : (m.updateTexts.map Prod.fst).Nodup
  shapes : ∀ shape, shape ∈ m.updateTexts.map Prod.fst ↔ shape ∈ used

namespace Mapper.Keeps

variable {m : Mapper} {e : Entity} {on : Database} {number : Nat} {used : List UpdateShape}

/-- a mapper that was just made keeps no text -/
theorem fresh (e : Entity) (on : Database) (number : Nat) :
    Keeps { entity := e, database := on, number } e on number [] :=
  ⟨rfl, rfl, rfl, nofun, nofun, nofun, nofun, List.nodup_nil, fun _ => Iff.rfl⟩

theorem model (h : m.Keeps e on number used) : m.model = e.model := congrArg Entity.model h.entity

theorem insertion (h : m.Keeps e on number used) :
    m.insertion.1 = e.model.insertRow.text ∧ m.insertion.2.Keeps e on number used := by
  have made : m.insertion.1 = e.model.insertRow.text := by
    cases kept : m.insertText with
    | none => simp [Mapper.insertion, kept, h.model]
    | some text => simp [Mapper.insertion, kept, h.insertText text kept]
  refine ⟨made, { h with insertText := fun text kept => ?_ }⟩
  exact (Option.some.inj kept).symm.trans made

theorem deletion (h : m.Keeps e on number used) :
    m.deletion.1 = e.model.deleteRow.text ∧ m.deletion.2.Keeps e on number used := by
  have made : m.deletion.1 = e.model.deleteRow.text := by
    cases kept : m.deleteText with
    | none => simp [Mapper.deletion, kept, h.model]
    | some text => simp [Mapper.deletion, kept, h.deleteText text kept]
  refine ⟨made, { h with deleteText := fun text kept => ?_ }⟩
  exact (Option.some.inj kept).symm.trans made

theorem fetch (h : m.Keeps e on number used) :
    m.fetch.1 = e.model.selectRow.text ∧ m.fetch.2.Keeps e on number used := by
  have made : m.fetch.1 = e.model.selectRow.text := by
    cases kept : m.selectText with
    | none => simp [Mapper.fetch, kept, h.model]
    | some text => simp [Mapper.fetch, kept, h.selectText text kept]
  refine ⟨made, { h with selectText := fun text kept => ?_ }⟩
  exact (Option.some.inj kept).symm.trans made

/-- a shape that is new gets a text, one that is not has one -/
theorem updating (h : m.Keeps e on number used) (shape : UpdateShape) :
    (m.updating shape).1 = (e.model.updateRow shape.fields shape.conditions).text ∧
      (m.updating shape).2.Keeps e on number (used ++ [shape]) := by
  unfold Mapper.updating
  cases kept : m.updateTexts.lookup shape with
  | some text =>
    have stored : (shape, text) ∈ m.updateTexts := Keyed.mem_of_lookup kept
    refine ⟨h.updateTexts _ stored, { h with shapes := fun other => ?_ }⟩
    -- the shape has been used before, so using it again adds none
    have known : shape ∈ used := (h.shapes shape).mp (List.mem_map_of_mem stored)
    rw [h.shapes, List.mem_append, List.mem_singleton]
    exact ⟨.inl, fun hm => hm.elim id fun same => same ▸ known⟩
  | none =>
    have new : shape ∉ m.updateTexts.map Prod.fst := by
      intro hm
      obtain ⟨x, hx, rfl⟩ := List.mem_map.mp hm
      simpa using List.lookup_eq_none_iff.mp kept x hx
    have made : (m.model.updateRow shape.fields shape.conditions).text =
        (e.model.updateRow shape.fields shape.conditions).text := by rw [h.model]
    refine ⟨made, { h with updateTexts := fun x hx => ?_, distinct := ?_, shapes := fun other => ?_ }⟩
    · rcases List.mem_append.mp hx with hx | hx
      · exact h.updateTexts x hx
      · obtain rfl := List.mem_singleton.mp hx
        exact made
    · rw [List.map_append, List.nodup_append_comm]
      exact List.nodup_cons.mpr ⟨new, h.distinct⟩
    · rw [List.map_append, List.mem_append, h.shapes, List.mem_append]
      rfl

/-- **A mapper keeps as many texts of updates as there were different shapes.** -/
theorem shapeCount_eq (h : m.Keeps e on number used) : m.shapeCount = used.dedup.length := by
  have same : (m.updateTexts.map Prod.fst).Perm used.dedup := by
    rw [List.perm_ext_iff_of_nodup h.distinct (List.nodup_dedup used)]
    intro shape
    rw [h.shapes, List.mem_dedup]
  rw [Mapper.shapeCount, ← same.length_eq, List.length_map]

/-! ## Operations -/

theorem always_insert (h : m.Keeps e on number used) (active : Active) (i : Instance) :
    Always (fun x => x.2.Keeps e on number used) (m.insert active i) := by
  have kept := h.insertion.2
  unfold Mapper.insert
  simp only
  split
  · exact kept
  · split
    · rw [Dialogue.always_bind]
      exact fun answer => kept
    · rw [Dialogue.always_bind]
      intro answer
      match answer with
      | .error _ | .ok [] | .ok (_ :: _) => exact kept

theorem always_insertAll (h : m.Keeps e on number used) (active : Active) (instances : List Instance) :
    Always (fun x => x.2.Keeps e on number used) (m.insertAll active instances) := by
  have kept := h.insertion.2
  unfold Mapper.insertAll
  split
  · exact h
  · simp only
    split
    · exact kept
    · rw [Dialogue.always_bind]
      exact fun answer => kept

theorem always_update (h : m.Keeps e on number used) (active : Active) (i : Instance) (fields : List Nat)
    (conditions : List (Nat × Value)) :
    Always (fun x => x.2.Keeps e on number (used ++ [⟨fields, conditions.map Prod.fst⟩]))
      (m.update active i fields conditions) := by
  have kept := (h.updating ⟨fields, conditions.map Prod.fst⟩).2
  unfold Mapper.update
  simp only
  split
  · exact kept
  · rw [Dialogue.always_bind]
    exact fun answer => kept

theorem always_delete (h : m.Keeps e on number used) (active : Active) (i : Instance) :
    Always (fun x => x.2.Keeps e on number used) (m.delete active i) := by
  have kept := h.deletion.2
  unfold Mapper.delete
  simp only
  split
  · exact kept
  · rw [Dialogue.always_bind]
    exact fun answer => kept

theorem always_load (h : m.Keeps e on number used) (active : Active) (key : List Value) :
    Always (fun x => x.2.Keeps e on number used) (m.load active key) := by
  have kept := h.fetch.2
  unfold Mapper.load
  split
  · exact h
  · split
    · exact h
    · rw [Dialogue.always_bind]
      exact fun answer => kept

end Mapper.Keeps

end Tabula
