import Tabula.Database.Scripted
import Tabula.Proofs.Instance.FailedSave
import Tabula.Proofs.Registry
import Tabula.Query.Manager
/-!
# Creating a row at once and step by step

`Manager.create` refuses a missing value before it saves.  The steps that it stands for, `Manager.createStepwise`, leave
that to the save, which fills in automatic values first.  So the two agree unless a save would fill in what is missing.
-/

namespace Tabula

variable {db : Database} {r : Registry} {i j : Instance} {active : Active} {now : Instant}

/-! ## Refusals of values

The refusal of a missing value ends in other words than that of a value which cannot be stored.
-/

/-- the words that the refusal of a missing value ends in -/
def Instance.missingWords : List Char := " is non nullable field, but null was passed".toList

theorem Instance.missingWords_suffix (name : String) : missingWords <:+ (nullRefused name).detail.toList := by
  rw [nullRefused, String.toList_append]
  exact List.suffix_append _ _

namespace Field

variable {f : Field} {v : Value} {err : Error}

theorem orRefuse_error {r : Option Value} (h : f.orRefuse v r = .error err) : err = f.refusal v := by
  cases r with
  | none =>
    injection h with h
    exact h.symm
  | some w => cases h

theorem accept_error (h : f.accept v = .error err) : err = f.refusal v ∨ v.readJson = .error err := by
  unfold accept at h
  split at h
  · cases h
  · cases hk : f.kind <;> simp only [hk] at h
    case json =>
      cases read : v.readJson with
      | error e' =>
        rw [read] at h
        injection h with h
        exact .inr (congrArg Except.error h)
      | ok j =>
        rw [read] at h
        cases h
    all_goals exact .inl (orRefuse_error h)

theorem toStorage_error (h : f.toStorage v = .error err) : err = f.refusal v ∨ v.readJson = .error err := by
  rw [toStorage, Outcome.bind_error] at h
  rcases h with h | ⟨w, _, h⟩
  · exact accept_error h
  · cases w with
    | span s => exact .inl (orRefuse_error h)
    | _ => cases h

theorem not_suffix_of_readJson_error (h : v.readJson = .error err) : ¬Instance.missingWords <:+ err.detail.toList := by
  cases v with
  | string s =>
    rw [Value.readJson] at h
    split at h
    · cases h
    · injection h with h
      rw [← h]
      decide +kernel
  | bytes b | span b =>
    injection h with h
    rw [← h]
    simp only [Value.kind]
    decide +kernel
  | _ => cases h

/-- a refusal to store a value is no refusal of a missing one -/
theorem not_suffix_of_toStorage_error (h : f.toStorage v = .error err) :
    ¬Instance.missingWords <:+ err.detail.toList := by
  rcases toStorage_error h with rfl | h
  · intro suffix
    have ends : (f.refusal v).detail.toList = ("field '" ++ f.name ++ "' (" ++ f.kind.inspect ++ ") cannot accept " ++
        v.kind ++ " value '" ++ v.text).toList ++ ['\''] := by
      rw [refusal, String.toList_append]
      rfl
    have last := List.reverse_prefix.mpr suffix
    have first : Instance.missingWords.reverse = 'd' :: Instance.missingWords.reverse.tail := by decide +kernel
    rw [ends, List.reverse_concat, first, List.cons_prefix_cons] at last
    exact absurd last.1 (by decide)
  · exact not_suffix_of_readJson_error h

end Field

namespace Instance

/-! ## Assigning fields -/

theorem isVariant_set {name : String} {v : Value} (h : i.set name v = .ok j) : i.IsVariant j := by
  obtain ⟨position, _, h⟩ := Outcome.bind_ok.mp h
  split at h
  · cases h
  · next f _ =>
    obtain ⟨w, _, h⟩ := Outcome.bind_ok.mp h
    simp only at h
    by_cases missing : refusesNull f w = true
    · rw [if_pos missing] at h
      cases h
    · rw [if_neg missing] at h
      split at h
      · cases h
      · rw [← Outcome.pure_ok.mp h]
        exact i.isVariant_withAt position w

theorem isVariant_setAll {pairs : List (String × Value)} (h : i.setAll pairs = .ok j) : i.IsVariant j := by
  unfold setAll at h
  induction pairs generalizing i with
  | nil => exact Outcome.pure_ok.mp h ▸ .refl i
  | cons p rest ih =>
    rw [List.foldlM_cons] at h
    obtain ⟨k, first, h⟩ := Outcome.bind_ok.mp h
    exact (isVariant_set first).trans (ih h)

theorem set_routedTo (i : Instance) (database name : String) (v : Value) :
    (i.routedTo database).set name v = (i.set name v).map (routedTo · database) := by
  have model : (i.routedTo database).model = i.model := rfl
  have kept : (i.routedTo database).persisted = i.persisted := rfl
  unfold set
  rw [model]
  cases i.model.position name with
  | error err => rfl
  | ok position =>
    have current : (i.routedTo database).valueAt position = i.valueAt position := rfl
    cases field : i.model.fields[position]? with
    | none =>
      simp only [bind, Except.bind, field]
      rfl
    | some f =>
      simp only [bind, Except.bind, field, kept, current]
      cases f.accept v with
      | error err => rfl
      | ok v =>
        simp only [pure, Except.pure]
        split
        · rfl
        · split <;> rfl

/-- fields are assigned whatever the database -/
theorem setAll_routedTo (i : Instance) (database : String) (pairs : List (String × Value)) :
    (i.routedTo database).setAll pairs = (i.setAll pairs).map (routedTo · database) := by
  unfold setAll
  induction pairs generalizing i with
  | nil => rfl
  | cons p rest ih =>
    rw [List.foldlM_cons, List.foldlM_cons, set_routedTo]
    cases i.set p.1 p.2 with
    | error err => rfl
    | ok j => exact ih j

theorem automaticValues_routedTo (i : Instance) (database : String) (now : Instant) (positions : List Nat) :
    (i.routedTo database).automaticValues now positions = i.automaticValues now positions := by
  induction positions with
  | nil => rfl
  | cons p rest ih =>
    unfold automaticValues
    rw [ih]
    rfl

theorem foldl_withAt_routedTo (i : Instance) (database : String) (filled : List (Nat × Value)) :
    filled.foldl (fun i v => i.withAt v.1 v.2) (i.routedTo database) =
      (filled.foldl (fun i v => i.withAt v.1 v.2) i).routedTo database := by
  induction filled generalizing i with
  | nil => rfl
  | cons v rest ih => exact ih (i.withAt v.1 v.2)

/-- automatic values are filled in whatever the database -/
theorem filledIn_routedTo (i : Instance) (database : String) (now : Instant) :
    (i.routedTo database).filledIn now = (i.filledIn now).map (routedTo · database) := by
  have same : (i.routedTo database).automaticValues now (i.routedTo database).model.automaticPositions =
      i.automaticValues now i.model.automaticPositions := automaticValues_routedTo ..
  unfold filledIn
  rw [same]
  cases i.automaticValues now i.model.automaticPositions with
  | error err => rfl
  | ok filled => exact congrArg Except.ok (foldl_withAt_routedTo i database filled)

theorem filledIn_checkRequired_routedTo (i : Instance) (database : String) (now : Instant) :
    ((i.routedTo database).filledIn now >>= checkRequired) = (i.filledIn now >>= checkRequired) := by
  rw [filledIn_routedTo]
  cases i.filledIn now <;> rfl

/-! ## Saving what is not stored -/

/-- what comes of a save to the one who makes a row -/
def made (done : Outcome Unit × Instance) : Outcome Instance := done.1.map fun _ => done.2

/-- an insertion that asks nothing fails on a value that cannot be stored -/
theorem insert_eq_pure {m : Mapper} {done : (Outcome Unit × Instance) × Mapper} (h : m.insert active i = pure done) :
    ∃ err, done.1.1 = .error err ∧ ¬missingWords <:+ err.detail.toList := by
  unfold Mapper.insert at h
  simp only at h
  split at h
  · next err fails =>
    obtain ⟨p, _, refused⟩ := Outcome.exists_of_mapM_error fails
    refine ⟨err, ?_, ?_⟩
    · injection h with h
      rw [← h]
    · unfold Mapper.parameter at refused
      split at refused
      · exact Field.not_suffix_of_toStorage_error refused
      · cases refused
  · split at h <;> cases h

/-- a row is refused for a missing value just if one is missing after the automatic values are filled in -/
theorem insertRow_refuses {m : Mapper} {name : String} :
    (fun x => made x.1) <$> i.insertRow m active now = pure (.error (nullRefused name)) ↔
      (i.filledIn now >>= checkRequired) = .error (nullRefused name) := by
  cases filling : i.filledIn now with
  | error err =>
    have stopped : i.insertRow m active now = pure ((.error err, i), m) := by simp only [insertRow, filling]
    rw [stopped, map_pure, Dialogue.pure_inj]
    exact Outcome.error_inj.trans Outcome.error_inj.symm
  | ok filled =>
    cases required : filled.checkRequired with
    | error err =>
      have stopped : i.insertRow m active now = pure ((.error err, filled.withValues i.values), m) := by
        simp only [insertRow, filling, required]
      rw [stopped, map_pure, Dialogue.pure_inj, Outcome.ok_bind, required]
      exact Outcome.error_inj.trans Outcome.error_inj.symm
    | ok u =>
      rw [Outcome.ok_bind, required]
      constructor
      · intro h
        obtain ⟨done, inserted, refused⟩ := Dialogue.map_eq_pure.mp h
        simp only [insertRow, filling, required] at inserted
        obtain ⟨result, nothing, went_on⟩ := Dialogue.bind_eq_pure.mp inserted
        obtain ⟨err, fails, other⟩ := insert_eq_pure nothing
        obtain ⟨⟨answer, k⟩, m'⟩ := result
        obtain rfl : answer = .error err := fails
        have same : ((.error err, k.withValues i.values), m') = done := Dialogue.pure_inj.mp went_on
        rw [← same] at refused
        injection refused with refused
        exact absurd (refused ▸ missingWords_suffix name) other
      · intro h
        cases h

/-- an instance that is not stored is inserted -/
theorem save_of_mapper {m : Mapper} {r' : Registry} (active : Active) (now : Instant) (fresh : i.snapshot = none)
    (unstored : i.persisted = false) (nonempty : i.values ≠ [])
    (found : r.mapper i.entity i.databaseName = .ok (m, r')) :
    i.save active now r = (i.insertRow m active now >>= fun x => pure (x.1, Registry.keep r' x.2)) := by
  have changed : i.changedPositions = List.range i.values.length := by rw [changedPositions, fresh]
  have some : i.changedPositions.isEmpty = false := by
    have : i.values.length ≠ 0 := fun none => nonempty (List.length_eq_zero_iff.mp none)
    rw [changed, List.isEmpty_eq_false_iff, Ne, List.range_eq_nil]
    exact this
  have all : i.positionsToWrite [] = .ok i.changedPositions := rfl
  simp only [save, saveWith, some, all, found, unstored, Bool.false_eq_true, if_false]

theorem save_unstored (active : Active) (now : Instant) (fresh : i.snapshot = none)
    (unstored : i.persisted = false) (nonempty : i.values ≠ []) (serves : r.Serves i.entity db)
    (own : db.name = i.databaseName) :
    ∃ m r', i.save active now r = (i.insertRow m active now >>= fun x => pure (x.1, Registry.keep r' x.2)) := by
  obtain ⟨m, r', found, _, _⟩ := serves.mapper
  exact ⟨m, r', save_of_mapper active now fresh unstored nonempty (own ▸ found)⟩

theorem exists_of_checkRequired {err : Error} (h : i.checkRequired = .error err) :
    i.values ≠ [] ∧ ∃ name, err = nullRefused name := by
  unfold checkRequired at h
  split at h
  · next f v found =>
    injection h with h
    refine ⟨fun none => ?_, f.name, h.symm⟩
    have inside := List.mem_of_find?_eq_some found
    rw [cells, none, List.zip_nil_right] at inside
    exact absurd inside List.not_mem_nil
  · cases h

end Instance

namespace Manager

variable {m : Manager} {draw : Nat → Nat} {pairs : List (String × Value)}

/-- makes a new row step by step: a new instance on the manager's database, its fields assigned one after the other, and
a save -/
def createStepwise (m : Manager) (active : Active) (now : Instant) (draw : Nat → Nat)
    (pairs : List (String × Value)) : Work (Outcome Instance) :=
  match ((Instance.new m.entity draw).routedTo m.databaseName).setAll pairs with
  | .error err => return .error err
  | .ok i => do
    let done ← i.save active now
    return Instance.made done

theorem createStepwise_of_assigned (assigned : (Instance.new m.entity draw).setAll pairs = .ok i) :
    m.createStepwise active now draw pairs = (do
      let done ← (i.routedTo m.databaseName).save active now
      return Instance.made done) := by
  rw [createStepwise, Instance.setAll_routedTo, assigned]
  rfl

theorem create_of_complete (assigned : (Instance.new m.entity draw).setAll pairs = .ok i)
    (complete : i.checkRequired = .ok ()) : m.create active now draw pairs = (do
      let done ← (i.routedTo m.databaseName).save active now
      return Instance.made done) := by
  have ready : Instance.ofPairs m.entity draw pairs = .ok i := by
    rw [Instance.ofPairs, assigned, Outcome.ok_bind, complete]
    rfl
  rw [create, ready]
  rfl

theorem create_of_missing {err : Error} (assigned : (Instance.new m.entity draw).setAll pairs = .ok i)
    (missing : i.checkRequired = .error err) : m.create active now draw pairs = pure (.error err) := by
  have refused : Instance.ofPairs m.entity draw pairs = .error err := by
    rw [Instance.ofPairs, assigned, Outcome.ok_bind, missing]
    rfl
  rw [create, refused]

/-- what comes of the steps is what comes of inserting the instance that they assign -/
theorem createStepwise_outcome (active : Active) (now : Instant) (serves : r.Serves m.entity db)
    (own : db.name = m.databaseName) (assigned : (Instance.new m.entity draw).setAll pairs = .ok i)
    (nonempty : i.values ≠ []) :
    ∃ mapper, Prod.fst <$> m.createStepwise active now draw pairs r =
      (fun x => Instance.made x.1) <$> (i.routedTo m.databaseName).insertRow mapper active now := by
  obtain ⟨vs, rfl⟩ := Instance.isVariant_setAll assigned
  obtain ⟨mapper, r', saves⟩ := Instance.save_unstored active now
    (i := ((Instance.new m.entity draw).withValues vs).routedTo m.databaseName) rfl rfl nonempty serves own
  refine ⟨mapper, ?_⟩
  rw [createStepwise_of_assigned assigned]
  change Prod.fst <$> (_ >>= fun x : (Outcome Unit × Instance) × Registry => pure (Instance.made x.1, x.2)) = _
  rw [saves]
  simp only [bind_assoc, pure_bind, map_bind, map_pure]
  rfl

/-- **Creating a row in one call and step by step agree just if whatever is missing is still missing when a save has
filled in its automatic values.**  They make the same calls with the same outcome, whatever the answers, unless the call
refuses a missing value and the save would not refuse that same value. -/
theorem create_agrees_iff (serves : r.Serves m.entity db) (own : db.name = m.databaseName) :
    Prod.fst <$> m.create active now draw pairs r = Prod.fst <$> m.createStepwise active now draw pairs r ↔
      ∀ i err, (Instance.new m.entity draw).setAll pairs = .ok i → i.checkRequired = .error err →
        (i.filledIn now >>= Instance.checkRequired) = .error err := by
  cases assigned : (Instance.new m.entity draw).setAll pairs with
  | error err =>
    have same : m.create active now draw pairs = m.createStepwise active now draw pairs := by
      rw [create, Instance.ofPairs, createStepwise, Instance.setAll_routedTo, assigned]
      rfl
    rw [same]
    exact ⟨fun _ _ _ h => (nomatch h), fun _ => rfl⟩
  | ok i =>
    cases required : i.checkRequired with
    | ok u =>
      rw [create_of_complete assigned required, createStepwise_of_assigned assigned]
      refine ⟨fun _ j err same missing => ?_, fun _ => rfl⟩
      cases same
      exact nomatch required.symm.trans missing
    | error err =>
      obtain ⟨nonempty, name, rfl⟩ := Instance.exists_of_checkRequired required
      obtain ⟨mapper, steps⟩ := createStepwise_outcome active now serves own assigned nonempty
      have refused : Prod.fst <$> m.create active now draw pairs r = pure (.error (Instance.nullRefused name)) := by
        rw [create_of_missing assigned required]
        rfl
      rw [refused, steps, eq_comm, Instance.insertRow_refuses, Instance.filledIn_checkRequired_routedTo]
      constructor
      · intro filled j err same missing
        cases same
        rw [required] at missing
        cases missing
        exact filled
      · intro all
        exact all i _ rfl required

/-- notes that are stamped when they are made -/
def notes : Manager where
  entity := ⟨0, {
    name := "Note"
    table := "note"
    database := defaultDatabase
    isAbstract := false
    description := none
    uniqueTogether := []
    indexes := []
    fields := [(Field.new "id" .auto).asKey, Field.new "title" (.char 200),
      Field.new "created_at" (.instant false true)]
    key := [0] }⟩

theorem create_agrees_iff_notes :
    let r := Registry.ofDatabases [⟨defaultDatabase, 0⟩]
    let pairs := [("title", Value.string "Dune"), ("created_at", .instant ⟨0, 0⟩)]
    Prod.fst <$> notes.create [] ⟨5, 0⟩ id pairs r = Prod.fst <$> notes.createStepwise [] ⟨5, 0⟩ id pairs r := by
  refine (create_agrees_iff (Registry.serves_ofDatabases notes.entity ⟨defaultDatabase, 0⟩) rfl).mpr ?_
  intro i err assigned missing
  have complete : ((Instance.new notes.entity id).setAll [("title", .string "Dune"),
      ("created_at", .instant ⟨0, 0⟩)] >>= Instance.checkRequired) = .ok () := by rfl
  rw [assigned, Outcome.ok_bind, missing] at complete
  cases complete

/-- a note without its stamp is refused in one call, the steps insert it with the stamp filled in -/
theorem create_disagrees_notes :
    let stage : Stage := { scripts := [(0, { rows := [[⟨["id"], [.int 1]⟩]] })] }
    let r := Registry.ofDatabases [⟨defaultDatabase, 0⟩]
    let once := Prod.fst <$> notes.create [] ⟨5, 0⟩ id [("title", .string "Dune")] r
    let steps := Prod.fst <$> notes.createStepwise [] ⟨5, 0⟩ id [("title", .string "Dune")] r
    once ≠ steps ∧ once = pure (.error (Instance.nullRefused "created_at")) ∧
      (Dialogue.run Stage.answer stage steps).2.log.map Recorded.statement =
        ["INSERT INTO \"note\" (\"title\", \"created_at\") VALUES ($1, $2) RETURNING \"id\""] := by
  intro stage r once steps
  have refused : once = pure (.error (Instance.nullRefused "created_at")) := by rfl
  have inserted : (Dialogue.run Stage.answer stage steps).2.log.map Recorded.statement =
      ["INSERT INTO \"note\" (\"title\", \"created_at\") VALUES ($1, $2) RETURNING \"id\""] := by decide +kernel
  refine ⟨fun same => ?_, refused, inserted⟩
  rw [← same, refused] at inserted
  cases inserted

end Manager

end Tabula
