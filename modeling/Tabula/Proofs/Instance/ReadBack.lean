import Tabula.Proofs.Field.Conversion
import Tabula.Proofs.Instance.Copies
import Tabula.Proofs.Instance.Results
/-!
# What is saved and read back

A field holds a length of time to the nanosecond and stores its whole microseconds.  `Field.reads_back`: everything else
that a field holds reads back as it was, and a length of time reads back without the part below a microsecond.  So
an instance has its own values again after a reload just if all its lengths of time count whole microseconds.
-/

namespace Tabula

/-! ## Whole microseconds -/

namespace Value

/-- whether a value has no part below a microsecond, as all but lengths of time have none -/
def isCounted : Value → Bool
  | span t => t.nanos % 1000 = 0
  | _ => true

/-- the value without the part of a length of time that is below a microsecond -/
def inMicros : Value → Value
  | span t => span (.ofMicros (t.nanos.tdiv 1000))
  | v => v

theorem inMicros_eq_iff {v : Value} : v.inMicros = v ↔ v.isCounted = true := by
  cases v with
  | span t =>
    obtain ⟨n⟩ := t
    have whole : n.tdiv 1000 * 1000 = n ↔ n % 1000 = 0 := by
      have division := Int.tmod_add_mul_tdiv n 1000
      have divides : n.tmod 1000 = 0 ↔ n % 1000 = 0 := by
        rw [← Int.dvd_iff_tmod_eq_zero, ← Int.dvd_iff_emod_eq_zero]
      omega
    simp [inMicros, isCounted, Span.ofMicros, whole]
  | _ => simp [inMicros, isCounted]

end Value

namespace Field

variable {f : Field} {x v s : Value}

/-- what is stored for one of a field's values is read as that value in microseconds -/
theorem accept_stored (accepted : f.accept x = .ok v) (stored : f.toStorage v = .ok s) :
    f.accept s = .ok v.inMicros := by
  have again : f.accept v = .ok v := accept_accept accepted
  obtain ⟨w, hw, cell⟩ := toStorage_ok.mp stored
  obtain rfl : v = w := Except.ok.inj (again.symm.trans hw)
  cases v with
  | span t =>
    obtain ⟨n, counted, rfl⟩ := Option.map_eq_some_iff.mp cell
    rw [accept_micros (kind_of_accept_span accepted), Value.inMicros, Span.toInt_micros counted]
  | _ =>
    obtain rfl := Option.some.inj cell
    exact again

end Field

/-! ## Instances -/

namespace Instance

variable {i j : Instance} {e : Entity} {name database : String} {v : Value} {raw : List Value}

/-- whether every value is one that its field makes of some value -/
def Settled (i : Instance) : Prop :=
  ∀ (p : Nat) (f : Field) (v : Value), i.model.fields[p]? = some f → i.values[p]? = some v → ∃ x, f.accept x = .ok v

theorem Settled.set (settled : i.Settled) (h : i.set name v = .ok j) : j.Settled := by
  obtain ⟨p, f, w, _, hf, accepted, rfl, _⟩ := set_ok h
  intro q g u hg hu
  by_cases same : q = p
  · subst same
    have assigned : (i.values.set q w)[q]? = some u := hu
    obtain rfl : f = g := Option.some.inj (hf.symm.trans hg)
    have inside : q < i.values.length := by
      have := (List.getElem?_eq_some_iff.mp assigned).1
      simpa using this
    rw [List.getElem?_set_self inside] at assigned
    exact ⟨v, Option.some.inj assigned ▸ accepted⟩
  · have kept : (i.values.set p w)[q]? = i.values[q]? := List.getElem?_set_ne (Ne.symm same)
    exact settled q g u hg (kept.symm.trans hu)

theorem settled_ofRow (h : ofRow e database raw = .ok i) : i.Settled := by
  obtain ⟨same, values, accepted, rfl⟩ := ofRow_ok h
  intro p f v hf hv
  obtain ⟨c, _, read⟩ := accepted_at same accepted hf hv
  exact ⟨c, read⟩

/-- the cells of the row that a settled instance is stored in are read as its values in microseconds -/
theorem Settled.accept_cells (settled : i.Settled) (typed : i.IsOf e)
    (stored : i.cells.mapM (fun c => c.1.toStorage c.2) = .ok raw) : raw.length = e.model.fields.length ∧
      (e.model.fields.zip raw).mapM (fun c => c.1.accept c.2) = .ok (i.values.map Value.inMicros) := by
  obtain ⟨rfl, length⟩ := typed
  have each := Outcome.mapM_ok.mp stored
  have rawLength : raw.length = i.model.fields.length := by
    have := each.length_eq
    rw [cells, List.length_zip, length, Instance.model, Nat.min_self] at this
    exact this.symm
  refine ⟨rawLength, Outcome.mapM_ok.mpr (List.forall₂_iff_get.mpr ⟨?_, fun p hp hv => ?_⟩)⟩
  · simp [rawLength, length, Instance.model]
  · have inFields : p < i.model.fields.length := by simpa [Instance.model, rawLength] using hp
    have inValues : p < i.values.length := by simpa using hv
    have inCells : p < i.cells.length := by
      rw [cells, List.length_zip]
      omega
    have cell := (List.forall₂_iff_get.mp each).2 p inCells (rawLength ▸ inFields)
    simp only [List.get_eq_getElem, cells, List.getElem_zip] at cell
    obtain ⟨x, accepted⟩ := settled p _ _ (List.getElem?_eq_getElem inFields) (List.getElem?_eq_getElem inValues)
    simpa [Instance.model] using Field.accept_stored accepted cell

end Instance

/-- **What is saved reads back in whole microseconds.**  Whatever the field and the value that it has accepted: if the
value can be stored, the stored form is read as the value without what a length of time has below a microsecond, which is
the value itself just if there is no such part.  So an instance whose fields have accepted its values is read from
the cells that it is stored in with those values, field by field, just if none of them has such a part. -/
theorem Field.reads_back (f : Field) (i : Instance) :
    (∀ x v s : Value, f.accept x = .ok v → f.toStorage v = .ok s →
      f.accept s = .ok v.inMicros ∧ (f.accept s = .ok v ↔ v.isCounted = true)) ∧
    (∀ (e : Entity) (database : String) (raw : List Value), i.IsOf e → i.Settled →
      i.cells.mapM (fun c => c.1.toStorage c.2) = .ok raw →
      ∃ j, Instance.ofRow e database raw = .ok j ∧ j.values = i.values.map Value.inMicros ∧
        (j.values = i.values ↔ ∀ v ∈ i.values, v.isCounted = true)) := by
  refine ⟨fun x v s accepted stored => ?_, fun e database raw typed settled stored => ?_⟩
  · have read : f.accept s = .ok v.inMicros := accept_stored accepted stored
    refine ⟨read, ?_⟩
    rw [read, Except.ok.injEq]
    exact Value.inMicros_eq_iff
  · obtain ⟨length, accepted⟩ := settled.accept_cells typed stored
    refine ⟨({ entity := e, values := i.values.map Value.inMicros, persisted := true, database := some database } :
      Instance).synchronized, ?_, rfl, ?_⟩
    · rw [Instance.ofRow, if_neg (not_not.mpr length), accepted]
      rfl
    · have same : i.values.map Value.inMicros = i.values.map id ↔ ∀ v ∈ i.values, v.inMicros = v := List.map_inj_left
      rw [List.map_id] at same
      exact same.trans (forall₂_congr fun v _ => Value.inMicros_eq_iff)

namespace Instance

/-- recordings and their lengths -/
def recordings : Entity where
  number := 0
  model :=
    { name := "Recording", table := "recording", database := defaultDatabase, isAbstract := false, description := none
      uniqueTogether := [], indexes := [], fields := [(Field.new "id" .bigInt).asKey, Field.new "length" .span]
      key := [0] }

/-- a recording of the given length -/
def recording (nanos : Int) : Instance := { entity := recordings, values := [.int 1, .span ⟨nanos⟩] }

theorem settled_recording (nanos : Int) : (recording nanos).Settled := by
  intro p f v hf hv
  match p with
  | 0 | 1 =>
    obtain rfl := Option.some.inj hf
    obtain rfl := Option.some.inj hv
    exact ⟨_, Field.accept_of_owns rfl⟩
  | p + 2 => simp [recording] at hv

end Instance

namespace Field

open Instance (recordings recording settled_recording)

theorem reads_back_recording :
    (new "length" .span).accept (.int 2) = .ok (.span ⟨2000⟩) ∧
    ∃ j, Instance.ofRow recordings defaultDatabase [.int 1, .int 2] = .ok j ∧ j.values = (recording 2000).values := by
  obtain ⟨values, rows⟩ := reads_back (new "length" .span) (recording 2000)
  obtain ⟨j, made, read, _⟩ := rows recordings defaultDatabase [.int 1, .int 2] ⟨rfl, rfl⟩
    (settled_recording 2000) rfl
  have one := values (.span ⟨2000⟩) (.span ⟨2000⟩) (.int 2) rfl rfl
  exact ⟨one.2.mpr rfl, j, made, read⟩

/-- **A length of time may read back shorter**: a recording of 1500 nanoseconds counts as unchanged after its save, and is
read as one of 1000 from the cells that were written. -/
theorem reads_back_shorter :
    (new "length" .span).accept (.span ⟨1500⟩) = .ok (.span ⟨1500⟩) ∧
    (new "length" .span).toStorage (.span ⟨1500⟩) = .ok (.int 1) ∧
    (new "length" .span).accept (.int 1) = .ok (.span ⟨1000⟩) ∧
    (Value.span ⟨1000⟩ ≠ .span ⟨1500⟩) ∧
    (recording 1500).cells.mapM (fun c => c.1.toStorage c.2) = .ok [.int 1, .int 1] ∧
    ((recording 1500).storedIn defaultDatabase).changed = [] ∧
    ∃ j, Instance.ofRow recordings defaultDatabase [.int 1, .int 1] = .ok j ∧ j.values = (recording 1000).values :=
  ⟨rfl, rfl, rfl, by simp, rfl, by decide +kernel, _, rfl, rfl⟩

end Field

end Tabula
