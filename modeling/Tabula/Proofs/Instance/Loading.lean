import Tabula.Proofs.Dialogue
import Tabula.Proofs.Instance.Copies
import Tabula.Proofs.Registry
import Tabula.Query.Manager
/-!
# Loading a copy of a row

What a program gets from a table of one row when it loads by a key or refreshes a copy: if it gets anything, then a
copy of the row as it is.  The row stays.
-/

namespace Tabula

variable {e : Entity} {row : StoredRow} {version : Nat} {n stored : Int64} {r : Registry} {i : Instance}

/-- what a mapper finds is made of the row's cells -/
theorem Mapper.run_load {mapper : Mapper} (isFor : mapper.IsFor e row.database) (hm : e.model.Versioned version)
    (hr : row.IsOf e.model) (active : Active) (key : List Value) :
    ∃ found mapper', Dialogue.run StoredRow.answer row (mapper.load active key) = ((found, mapper'), row) ∧
      mapper'.IsFor e row.database ∧
      ∀ i, found = .ok (some i) → Instance.ofRow e row.database.name row.cells = .ok i := by
  unfold Mapper.load
  split
  · exact ⟨_, _, rfl, isFor, fun i hi => by simp [failure] at hi⟩
  · split
    · exact ⟨_, _, rfl, isFor, fun i hi => by simp at hi⟩
    · next parameters _ =>
      have text := isFor.fetch_fst
      have isFor' := isFor.fetch_snd
      have same : mapper.fetch.2.database = row.database := isFor'.database
      refine ⟨((row.query e.model.selectRow.text parameters).bind mapper.fetch.2.decode).map List.head?, mapper.fetch.2,
        ?_, isFor', fun i hi => ?_⟩
      · simp only [same, text]
        rw [Dialogue.run_bind, StoredRow.run_query, Dialogue.run_pure]
      · obtain ⟨instances, hi, first⟩ := Outcome.map_ok.mp hi
        obtain ⟨rows, hrows, decoded⟩ := Outcome.bind_ok.mp hi
        have each := Outcome.mapM_ok.mp decoded
        rw [isFor'.entity, isFor'.database] at each
        rcases StoredRow.query_selectRow hr hm.toSound hm.hasKey hrows with rfl | rfl
        · cases each
          simp at first
        · cases each with
          | cons made rest =>
            cases rest
            rw [List.head?_cons, Option.some_inj] at first
            exact first ▸ made

/-- the mapper of an entity is found, used and kept -/
theorem Registry.run_withMapper_load (serves : r.Serves e row.database) (hm : e.model.Versioned version)
    (hr : row.Keeps e.model version stored) (active : Active) (key : List Value) :
    ∃ found r', Dialogue.run StoredRow.answer row
        (Registry.withMapper e row.database.name (fun mapper => mapper.load active key) r) = ((found, r'), row) ∧
      r'.Serves e row.database ∧ ∀ i, found = .ok (some i) → i.IsCopy e row version stored := by
  obtain ⟨mapper, r', hmapper, isFor, serves'⟩ := serves.mapper
  obtain ⟨found, mapper', run, isFor', made⟩ := Mapper.run_load isFor hm hr.toIsOf active key
  refine ⟨found, r'.keep mapper', ?_, serves'.keep isFor', fun i hi => Instance.isCopy_ofRow hm hr (made i hi)⟩
  simp only [Registry.withMapper, hmapper]
  rw [Dialogue.run_bind, run]
  rfl

/-- **What is loaded by a key is a copy of the row as it is.** -/
theorem Manager.run_loadKey (serves : r.Serves e row.database) (hm : e.model.Versioned version)
    (hr : row.Keeps e.model version stored) (active : Active) (key : List Value) :
    ∃ found r', Dialogue.run StoredRow.answer row
        (Manager.loadKey { entity := e, database := some row.database.name } active key r) = ((found, r'), row) ∧
      r'.Serves e row.database ∧ ∀ i, found = .ok i → i.IsCopy e row version stored := by
  obtain ⟨found, r', run, serves', made⟩ := Registry.run_withMapper_load serves hm hr active key
  have same : Manager.databaseName { entity := e, database := some row.database.name } = row.database.name := rfl
  unfold Manager.loadKey
  rw [Work.run_bind, same, run]
  refine ⟨_, _, rfl, serves', fun i hi => ?_⟩
  obtain ⟨loaded, hl, hi⟩ := Outcome.bind_ok.mp hi
  cases loaded with
  | none => simp [failure] at hi
  | some j =>
    injection hi with hi
    exact hi ▸ made j hl

/-- **A refreshed copy is a copy of the row as it is**; one that cannot be refreshed stays as it was. -/
theorem Instance.IsCopy.run_refresh (h : i.IsCopy e row version n) (serves : r.Serves e row.database)
    (hm : e.model.Versioned version) (hr : row.Keeps e.model version stored) (active : Active) :
    ∃ answer j r', Dialogue.run StoredRow.answer row (i.refresh active r) = (((answer, j), r'), row) ∧
      r'.Serves e row.database ∧
      ((∃ err, answer = .error err ∧ j = i) ∨ answer = .ok () ∧ j.IsCopy e row version stored) := by
  obtain ⟨found, r', run, serves', made⟩ := Registry.run_withMapper_load serves hm hr active i.keyValues
  rw [← h.entity, ← h.database] at run
  unfold Instance.refresh
  rw [Dialogue.run_bind, run]
  match found with
  | .error err => exact ⟨_, _, _, rfl, serves', .inl ⟨_, rfl, rfl⟩⟩
  | .ok none => exact ⟨_, _, _, rfl, serves', .inl ⟨_, rfl, rfl⟩⟩
  | .ok (some fresh) => exact ⟨_, _, _, rfl, serves', .inr ⟨rfl, h.refreshedFrom (made fresh rfl)⟩⟩

end Tabula
