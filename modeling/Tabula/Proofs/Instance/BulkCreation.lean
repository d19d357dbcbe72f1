import Tabula.Proofs.Instance.Bookkeeping
import Tabula.Proofs.Instance.Creation
import Tabula.Proofs.Mapper.RowStatements
import Tabula.Proofs.Registry.Lifecycle
/-!
# Creating rows at once and one by one

A manager fills in, checks and converts all instances before it inserts the first.  If all of them can be inserted, it
sends what saving them one by one would send, and makes of them what the saves would make, but for what the database
makes itself: `Held.creates_alike`.
-/

namespace Tabula

open Dialogue (Always Exchange)

/-! ## Rows sent and answered -/

/-- the rows of parameters that a call sends, each with the database, the connection and the text that it goes with -/
def Call.rows (call : Call) : List (Database × Option Connection × String × List Value) :=
  match call.statement? with
  | some (on, pinned, text, rows) => rows.map fun row => (on, pinned, text, row)
  | none => []

/-- the rows of parameters that are sent in a dialogue, in order -/
def sentRows (t : List (Exchange Call Call.Answer)) : List (Database × Option Connection × String × List Value) :=
  t.flatMap fun x => x.question.rows

/-- whether a statement does not fail; if it is fetched, there is one row, whose cells are such as the fields that the
database makes can hold -/
def Model.Obliges (m : Model) : Exchange Call Call.Answer → Prop
  | ⟨.execute .., answer⟩ => ∃ n, answer = .ok n
  | ⟨.executeMany .., answer⟩ => ∃ n, answer = .ok n
  | ⟨.query .., answer⟩ => ∃ row : Row, answer = .ok [row] ∧ ∀ (k p : Nat) (f : Field),
      m.returningPositions[k]? = some p → m.fields[p]? = some f → ∃ v, f.accept (row.values.getD k .null) = .ok v
  | _ => True

theorem sentRows_append (t t' : List (Exchange Call Call.Answer)) : sentRows (t ++ t') = sentRows t ++ sentRows t' :=
  List.flatMap_append

/-- cells that the fields at the positions can hold are read back -/
theorem Mapper.exists_readBack {i : Instance} {cells : List Value} {ps : List Nat}
    (each : ∀ (k p : Nat) (f : Field), ps[k]? = some p → i.model.fields[p]? = some f →
      ∃ v, f.accept (cells.getD k .null) = .ok v) : ∃ j, readBack i cells ps = (.ok (), j) := by
  induction ps generalizing i cells with
  | nil => exact ⟨i, rfl⟩
  | cons p ps ih =>
    have later : ∀ (k q : Nat) (f : Field), ps[k]? = some q → i.model.fields[q]? = some f →
        ∃ v, f.accept ((cells.drop 1).getD k .null) = .ok v := by
      intro k q f hk hf
      have next := each (k + 1) q f hk hf
      simpa [List.getD_eq_getElem?_getD, List.getElem?_drop, Nat.add_comm] using next
    unfold readBack
    split
    · exact ih later
    · next f hf =>
      obtain ⟨v, accepted⟩ := each 0 p f rfl hf
      have first : f.accept (cells.headD .null) = .ok v := by cases cells <;> exact accepted
      rw [first]
      exact ih later

/-! ## Insertions -/

namespace Mapper.Keeps

variable {mapper mapper' : Mapper} {e : Entity} {on : Database} {number : Nat} {used : List UpdateShape}
  {active : Active} {i j : Instance} {t : List (Exchange Call Call.Answer)}

/-- a row that can be stored is inserted, and what the database made is read back -/
theorem says_insert (kept : mapper.Keeps e on number used) (own : i.entity = e) {row : List Value}
    (converts : Mapper.parameters i e.model.insertPositions = .ok row) {answer : Outcome Unit}
    (said : (mapper.insert active i).Says t ((answer, j), mapper')) (obliging : ∀ x ∈ t, e.model.Obliges x) :
    sentRows t = [(on, on.pinned active, e.model.insertRow.text, row)] ∧ answer = .ok () ∧
      ∃ cells, Mapper.readBack i cells e.model.returningPositions = (.ok (), j) := by
  obtain ⟨text, kept'⟩ := kept.insertion
  unfold Mapper.insert at said
  simp only [text, kept'.model, kept'.database, converts] at said
  split at said
  · next empty =>
    obtain ⟨reply, back, rfl, rest⟩ := Dialogue.says_ask.mp said
    obtain ⟨rfl, same⟩ := Dialogue.says_pure.mp rest
    cases same
    obtain ⟨n, rfl⟩ := obliging _ List.mem_cons_self
    refine ⟨rfl, rfl, [], ?_⟩
    rw [List.isEmpty_iff.mp empty]
    rfl
  · obtain ⟨reply, back, rfl, rest⟩ := Dialogue.says_ask.mp said
    obtain ⟨first, rfl, accepted⟩ := obliging _ List.mem_cons_self
    obtain ⟨rfl, same⟩ := Dialogue.says_pure.mp rest
    subst own
    obtain ⟨k, reads⟩ := Mapper.exists_readBack accepted
    injection same with same _
    rw [reads] at same
    cases same
    exact ⟨rfl, rfl, first.values, reads⟩

/-- rows that can be stored are inserted together -/
theorem says_insertAll (kept : mapper.Keeps e on number used) {instances : List Instance} {rows : List (List Value)}
    (convert : (instances.mapM fun i => Mapper.parameters i e.model.insertPositions) = .ok rows)
    {answer : Outcome Nat} (said : (mapper.insertAll active instances).Says t (answer, mapper'))
    (obliging : ∀ x ∈ t, e.model.Obliges x) :
    sentRows t = rows.map (fun row => (on, on.pinned active, e.model.insertRow.text, row)) ∧
      ∃ n, answer = .ok n := by
  obtain ⟨text, kept'⟩ := kept.insertion
  unfold Mapper.insertAll at said
  split at said
  · next empty =>
    obtain ⟨rfl, same⟩ := Dialogue.says_pure.mp said
    cases same
    rw [List.isEmpty_iff.mp empty] at convert
    cases convert
    exact ⟨rfl, 0, rfl⟩
  · simp only [text, kept'.model, kept'.database, convert] at said
    obtain ⟨reply, back, rfl, rest⟩ := Dialogue.says_ask.mp said
    obtain ⟨n, rfl⟩ := obliging _ List.mem_cons_self
    obtain ⟨rfl, same⟩ := Dialogue.says_pure.mp rest
    cases same
    exact ⟨List.append_nil _, n, rfl⟩

end Mapper.Keeps

/-- if one row cannot be stored, nothing is asked -/
theorem Mapper.says_insertAll_error {mapper mapper' : Mapper} {active : Active} {instances : List Instance}
    {t : List (Exchange Call Call.Answer)} {answer : Outcome Nat} {err : Error}
    (fails : (instances.mapM fun i => parameters i mapper.model.insertPositions) = .error err)
    (said : (mapper.insertAll active instances).Says t (answer, mapper')) : t = [] ∧ answer = .error err := by
  unfold Mapper.insertAll at said
  split at said
  · next empty =>
    rw [List.isEmpty_iff.mp empty] at fails
    cases fails
  · have model : mapper.insertion.2.model = mapper.model := rfl
    simp only [model, fails] at said
    obtain ⟨rfl, same⟩ := Dialogue.says_pure.mp said
    cases same
    exact ⟨rfl, rfl⟩

/-! ## Mappers that are found again -/

namespace Registry

variable {r r' : Registry} {e : Entity} {name : String} {on : Database} {m m' : Mapper} {number : Nat}
  {used : List UpdateShape}

/-- whether a registry finds or makes a mapper of an entity under a name, which runs on a database and has no text but
its own -/
def Provides (r : Registry) (e : Entity) (name : String) (on : Database) : Prop :=
  ∃ m r' number used, r.mapper e name = .ok (m, r') ∧ r'.mappers.lookup ⟨e.number, name⟩ = some m ∧
    m.Keeps e on number used

/-- what a mapper has learnt is found again -/
theorem provides_keep (found : r.mappers.lookup ⟨e.number, name⟩ = some m) (same : m.number = m'.number)
    (kept : m'.Keeps e on number used) : (r.keep m').Provides e name on := by
  have again : (r.keep m').mappers.lookup ⟨e.number, name⟩ = some m' := by
    rw [lookup_keep, found, Option.map_some, if_pos same]
  refine ⟨m', r.keep m', number, used, ?_, again, kept⟩
  simp only [Registry.mapper, again]

end Registry

/-! ## One by one -/

theorem Manager.entity_readied {now : Instant} {i filled : Instance} (h : readied now i = .ok filled) :
    filled.entity = i.entity := by
  obtain ⟨values, rfl⟩ := Instance.isVariant_filledIn (readied_iff.mp h).1
  rfl

namespace Instance

variable {e : Entity} {on : Database} {active : Active} {now : Instant} {r r' : Registry} {i j : Instance}
  {t : List (Exchange Call Call.Answer)}

/-- the row of parameters that an instance is inserted with, or what it is refused for -/
def row (now : Instant) (i : Instance) : Outcome (List Value) := do
  let filled ← Manager.readied now i
  Mapper.parameters filled filled.model.insertPositions

/-- saves instances one after the other, whatever comes of it -/
def saveEach (active : Active) (now : Instant) : List Instance → Work (List (Outcome Unit × Instance))
  | [] => return []
  | i :: rest => do
    let done ← i.save active now
    return done :: (← saveEach active now rest)

/-- whether an instance is one of an entity that is to be inserted under a name -/
structure IsDraft (i : Instance) (e : Entity) (name : String) : Prop extends i.IsOf e where
  unstored : i.persisted = false
  fresh : i.snapshot = none
  routed : i.databaseName = name

/-- whether an instance in step with its row is as another but for the values at some positions -/
structure AgreesBut (positions : List Nat) (i j : Instance) : Prop where
  inStep : i.snapshot = some i.values
  alike : j = (i.withValues j.values).synchronized
  length : j.values.length = i.values.length
  kept : ∀ p, p ∉ positions → j.valueAt p = i.valueAt p

theorem agreesBut_readBack {filled : Instance} {cells : List Value} {positions : List Nat} {name : String}
    (nodup : positions.Nodup) (inside : ∀ p ∈ positions, p < filled.values.length)
    (reads : Mapper.readBack filled cells positions = (.ok (), j)) :
    (filled.storedIn name).AgreesBut positions (j.storedIn name) := by
  have variant := filled.isVariant_readBack cells positions
  have length := filled.length_readBack cells positions
  rw [reads] at variant length
  obtain ⟨values, rfl⟩ := variant
  exact ⟨rfl, rfl, length, (RowOperation.valueAt_readBack inside nodup reads).1⟩

/-- an instance that is ready is inserted, and takes over what the database made -/
theorem says_insertRow {m m' : Mapper} {number : Nat} {used : List UpdateShape} (isOf : i.IsOf e)
    (keeps : m.Keeps e on number used) {filled : Instance} (prepared : Manager.readied now i = .ok filled)
    {params : List Value} (converts : Mapper.parameters filled e.model.insertPositions = .ok params)
    {answer : Outcome Unit} (said : (i.insertRow m active now).Says t ((answer, j), m'))
    (obliging : ∀ x ∈ t, e.model.Obliges x) :
    sentRows t = [(on, on.pinned active, e.model.insertRow.text, params)] ∧ m'.Keeps e on number used ∧
      answer = .ok () ∧ (filled.storedIn i.databaseName).AgreesBut e.model.returningPositions j := by
  obtain ⟨fills, required⟩ := Manager.readied_iff.mp prepared
  simp only [insertRow, fills, required] at said
  obtain ⟨front, ⟨⟨answer₁, k⟩, m₁⟩, back, rfl, asked, rest⟩ := Dialogue.says_bind.mp said
  have entity : filled.entity = e := (Manager.entity_readied prepared).trans isOf.entity
  obtain ⟨sent, rfl, cells, reads⟩ := keeps.says_insert entity converts asked fun x hx =>
    obliging x (List.mem_append_left _ hx)
  obtain ⟨rfl, same⟩ := Dialogue.says_pure.mp rest
  cases same
  rw [List.append_nil]
  refine ⟨sent, Always.of_says (keeps.always_insert active filled) asked, rfl, ?_⟩
  have inside : ∀ p ∈ e.model.returningPositions, p < filled.values.length := by
    intro p hp
    rw [length_filledIn fills, isOf.length]
    exact Model.lt_of_mem_positionsWhere hp
  exact agreesBut_readBack (Model.nodup_positionsWhere ..) inside reads

/-- a draft that can be inserted is saved by one insertion -/
theorem IsDraft.says_save {name : String} (draft : i.IsDraft e name) (some : e.model.fields ≠ [])
    (provides : r.Provides e name on) {params : List Value} (ready : i.row now = .ok params) {answer : Outcome Unit}
    (said : (i.save active now r).Says t ((answer, j), r')) (obliging : ∀ x ∈ t, e.model.Obliges x) :
    sentRows t = [(on, on.pinned active, e.model.insertRow.text, params)] ∧ r'.Provides e name on ∧ answer = .ok () ∧
      ∃ filled, Manager.readied now i = .ok filled ∧
        (filled.storedIn name).AgreesBut e.model.returningPositions j := by
  obtain ⟨m, r₁, number, used, found, kept, keeps⟩ := provides
  obtain ⟨filled, prepared, converts⟩ := Outcome.bind_ok.mp ready
  have entity : filled.entity = e := (Manager.entity_readied prepared).trans draft.entity
  have model : filled.model = e.model := congrArg Entity.model entity
  have nonempty : i.values ≠ [] := by
    rw [← List.length_pos_iff, draft.length, List.length_pos_iff]
    exact some
  rw [← draft.entity, ← draft.routed] at found
  rw [save_of_mapper active now draft.fresh draft.unstored nonempty found] at said
  obtain ⟨⟨⟨answer', k⟩, m'⟩, inserted, same⟩ := Dialogue.says_bind_pure.mp said
  cases same
  rw [model] at converts
  obtain ⟨sent, keeps', saved, agrees⟩ := says_insertRow draft.toIsOf keeps prepared converts inserted obliging
  have again := Registry.provides_keep kept (keeps.number.trans keeps'.number.symm) keeps'
  exact ⟨sent, again, saved, filled, prepared, draft.routed ▸ agrees⟩

/-- **Drafts that can be inserted are saved by one insertion each.** -/
theorem says_saveEach {name : String} {drafts : List Instance} (each : ∀ i ∈ drafts, i.IsDraft e name)
    (some : e.model.fields ≠ []) (provides : r.Provides e name on) {rows : List (List Value)}
    (ready : drafts.mapM (row now) = .ok rows) {saves : List (Outcome Unit × Instance)}
    (said : (saveEach active now drafts r).Says t (saves, r')) (obliging : ∀ x ∈ t, e.model.Obliges x) :
    sentRows t = rows.map (fun params => (on, on.pinned active, e.model.insertRow.text, params)) ∧
      ∃ filled, drafts.mapM (Manager.readied now) = .ok filled ∧ List.Forall₂ (fun k done => done.1 = .ok () ∧
        (k.storedIn name).AgreesBut e.model.returningPositions done.2) filled saves := by
  induction drafts generalizing r t rows saves with
  | nil =>
    obtain ⟨rfl, same⟩ := Dialogue.says_pure.mp said
    cases same
    cases ready
    exact ⟨rfl, [], rfl, .nil⟩
  | cons i rest ih =>
    rw [List.forall_mem_cons] at each
    change (i.save active now r >>= fun x => saveEach active now rest x.2 >>= fun y => pure (x.1 :: y.1, y.2)).Says t
      (saves, r') at said
    obtain ⟨front, ⟨⟨answer, j⟩, r₁⟩, back, rfl, first, said⟩ := Dialogue.says_bind.mp said
    obtain ⟨⟨more, r₂⟩, later, same⟩ := Dialogue.says_bind_pure.mp said
    cases same
    cases Outcome.mapM_ok.mp ready with
    | cons one others =>
      -- the next save starts from the registry that this one leaves
      obtain ⟨sent, provides₁, rfl, filled, prepared, agrees⟩ := each.1.says_save some provides one first
        fun x hx => obliging x (List.mem_append_left _ hx)
      obtain ⟨sent', fills, prepares, agree⟩ := ih each.2 provides₁ (Outcome.mapM_ok.mpr others) later
        fun x hx => obliging x (List.mem_append_right _ hx)
      refine ⟨?_, filled :: fills, ?_, .cons ⟨rfl, agrees⟩ agree⟩
      · rw [sentRows_append, sent, sent']
        rfl
      · exact Outcome.mapM_ok.mpr (.cons prepared (Outcome.mapM_ok.mp prepares))

end Instance

/-! ## At once -/

namespace Manager

variable {m : Manager} {on : Database} {active : Active} {now : Instant} {r r' : Registry}
  {drafts filled : List Instance} {t : List (Exchange Call Call.Answer)} {result : Outcome (List Instance)}

/-- the rows of drafts are made by the columns of their entity -/
theorem mapM_parameters (each : ∀ i ∈ drafts, i.entity = m.entity) (ready : drafts.mapM (readied now) = .ok filled) :
    (filled.mapM fun k => Mapper.parameters k k.model.insertPositions) =
      filled.mapM fun k => Mapper.parameters k m.entity.model.insertPositions := by
  refine Outcome.mapM_congr fun k hk => ?_
  obtain ⟨i, hi, prepared⟩ := Outcome.exists_of_mem_mapM ready hk
  have model : k.model = m.entity.model := congrArg Entity.model ((entity_readied prepared).trans (each i hi))
  rw [model]

/-- drafts that are ready are left to the mapper -/
theorem bulkCreate_of_readied {mapper : Mapper} {r₁ : Registry} (ready : drafts.mapM (readied now) = .ok filled)
    (found : r.mapper m.entity m.databaseName = .ok (mapper, r₁)) : m.bulkCreate active now drafts r =
      (mapper.insertAll active filled >>= fun x =>
        pure (x.1.map fun _ => filled.map (·.storedIn m.databaseName), r₁.keep x.2)) := by
  have uses : Registry.withMapper m.entity m.databaseName (fun mapper => mapper.insertAll active filled) r =
      (mapper.insertAll active filled >>= fun x => pure (x.1, r₁.keep x.2)) := by
    simp only [Registry.withMapper, found]
  simp only [bulkCreate, ready]
  change (Registry.withMapper m.entity m.databaseName (fun mapper => mapper.insertAll active filled) r >>= fun x =>
    pure (x.1.map fun _ => filled.map (·.storedIn m.databaseName), x.2)) = _
  rw [uses]
  simp only [bind_assoc, pure_bind]

/-- **Drafts that can be inserted are sent together.** -/
theorem says_bulkCreate (each : ∀ i ∈ drafts, i.entity = m.entity) (provides : r.Provides m.entity m.databaseName on)
    {rows : List (List Value)} (ready : drafts.mapM (Instance.row now) = .ok rows)
    (said : (m.bulkCreate active now drafts r).Says t (result, r'))
    (obliging : ∀ x ∈ t, m.entity.model.Obliges x) :
    sentRows t = rows.map (fun params => (on, on.pinned active, m.entity.model.insertRow.text, params)) ∧
      ∃ filled, drafts.mapM (readied now) = .ok filled ∧ result = .ok (filled.map (·.storedIn m.databaseName)) := by
  obtain ⟨filled, prepared, converts⟩ := Outcome.mapM_bind_ok.mp ready
  rw [mapM_parameters each prepared] at converts
  obtain ⟨mapper, r₁, number, used, found, _, kept⟩ := provides
  rw [bulkCreate_of_readied prepared found] at said
  obtain ⟨⟨inserted, mapper'⟩, asked, same⟩ := Dialogue.says_bind_pure.mp said
  cases same
  obtain ⟨sent, n, rfl⟩ := kept.says_insertAll converts asked obliging
  exact ⟨sent, filled, prepared, rfl⟩

/-- **If one draft cannot be inserted, nothing is sent.** -/
theorem says_bulkCreate_error (each : ∀ i ∈ drafts, i.entity = m.entity)
    (provides : r.Provides m.entity m.databaseName on) {err : Error}
    (fails : drafts.mapM (Instance.row now) = .error err)
    (said : (m.bulkCreate active now drafts r).Says t (result, r')) :
    t = [] ∧ ∃ i ∈ drafts, ∃ err, i.row now = .error err ∧ result = .error err := by
  cases prepared : drafts.mapM (readied now) with
  | error err =>
    simp only [bulkCreate, prepared] at said
    obtain ⟨rfl, same⟩ := Dialogue.says_pure.mp said
    cases same
    obtain ⟨i, hi, refused⟩ := Outcome.exists_of_mapM_error prepared
    exact ⟨rfl, i, hi, err, Outcome.bind_error.mpr (.inl refused), rfl⟩
  | ok filled =>
    obtain ⟨mapper, r₁, number, used, found, _, kept⟩ := provides
    rw [bulkCreate_of_readied prepared found] at said
    obtain ⟨⟨inserted, mapper'⟩, asked, same⟩ := Dialogue.says_bind_pure.mp said
    cases same
    cases converts : filled.mapM fun k => Mapper.parameters k k.model.insertPositions with
    | ok rows =>
      have ready : drafts.mapM (Instance.row now) = .ok rows := Outcome.mapM_bind_ok.mpr ⟨filled, prepared, converts⟩
      rw [fails] at ready
      cases ready
    | error err =>
      -- the draft whose row the mapper cannot convert has passed the checks before
      obtain ⟨k, hk, refused⟩ := Outcome.exists_of_mapM_error converts
      obtain ⟨i, hi, readies⟩ := Outcome.exists_of_mem_mapM prepared hk
      rw [mapM_parameters each prepared, ← kept.model] at converts
      obtain ⟨rfl, rfl⟩ := Mapper.says_insertAll_error converts asked
      exact ⟨rfl, i, hi, err, Outcome.bind_error.mpr (.inr ⟨k, readies, refused⟩), rfl⟩

end Manager

/-- **Creating rows at once does what saving them one by one does.**  A program holds drafts of an entity with at least
one field, routed to the database of a manager, which is attached.  If all of them can be inserted, and no statement
fails and rows that come back can be read, then the rows that `bulkCreate` sends are those that the saves send, in the
same order, with the same text and to the same connection; the saves succeed, and each leaves its instance as
`bulkCreate` makes it but for the fields that the database makes.  If one draft is refused in filling in, checking or
converting it, `bulkCreate` sends nothing. -/
theorem Held.creates_alike {models : Nat → Model} {r : Registry} {held : List Instance} (h : Held models r held)
    {m : Manager} (numbered : m.entity.IsNumbered models) (some : m.entity.model.fields ≠ []) {db : Database}
    (attached : r.database m.databaseName = .ok db) {drafts : List Instance} (own : ∀ i ∈ drafts, i ∈ held)
    (each : ∀ i ∈ drafts, i.entity = m.entity ∧ i.persisted = false ∧ i.databaseName = m.databaseName)
    (active : Active) (now : Instant) :
    (∀ rows, drafts.mapM (Instance.row now) = .ok rows →
      ∃ mapper after, r.mapper m.entity m.databaseName = .ok (mapper, after) ∧
        ∀ t made r₁ t' saves r₂, (m.bulkCreate active now drafts r).Says t (made, r₁) →
          (Instance.saveEach active now drafts r).Says t' (saves, r₂) →
          (∀ x ∈ t ++ t', m.entity.model.Obliges x) →
            sentRows t = rows.map (fun params =>
              (mapper.database, mapper.database.pinned active, m.entity.model.insertRow.text, params)) ∧
            sentRows t' = sentRows t ∧
            ∃ instances, made = .ok instances ∧ List.Forall₂ (fun i done => done.1 = .ok () ∧
              i.AgreesBut m.entity.model.returningPositions done.2) instances saves) ∧
    ((∃ i ∈ drafts, ∃ err, i.row now = .error err) →
      ∀ t made r', (m.bulkCreate active now drafts r).Says t (made, r') →
        t = [] ∧ ∃ i ∈ drafts, ∃ err, i.row now = .error err ∧ made = .error err) := by
  obtain ⟨typed, books⟩ := h.sound
  obtain ⟨mapper, after, found⟩ := Registry.exists_mapper attached m.entity
  obtain ⟨_, _, on, used, kept⟩ := typed.mapper numbered found
  have provides : r.Provides m.entity m.databaseName mapper.database :=
    ⟨mapper, after, _, used, found, Registry.lookup_of_mapper found, kept.database ▸ kept⟩
  have entities : ∀ i ∈ drafts, i.entity = m.entity := fun i hi => (each i hi).1
  have isDraft : ∀ i ∈ drafts, i.IsDraft m.entity m.databaseName := by
    intro i hi
    obtain ⟨entity, unstored, routed⟩ := each i hi
    obtain ⟨e, _, consistent⟩ := books i (own i hi)
    -- what is not stored has no snapshot, so that a save writes every field
    have fresh : i.snapshot = none := by
      rw [← Option.not_isSome_iff_eq_none, consistent.stored, unstored]
      exact Bool.false_ne_true
    exact ⟨⟨entity, by rw [consistent.length, ← entity, consistent.entity]⟩, unstored, fresh, routed⟩
  constructor
  · intro rows ready
    refine ⟨mapper, after, found, fun t made r₁ t' saves r₂ said said' obliging => ?_⟩
    obtain ⟨sent, filled, prepared, rfl⟩ := Manager.says_bulkCreate entities provides ready said fun x hx =>
      obliging x (List.mem_append_left _ hx)
    obtain ⟨sent', filled', prepared', agree⟩ := Instance.says_saveEach isDraft some provides ready said' fun x hx =>
      obliging x (List.mem_append_right _ hx)
    obtain rfl : filled = filled' := Except.ok.inj (prepared.symm.trans prepared')
    exact ⟨sent, sent'.trans sent.symm, _, rfl, List.forall₂_map_left_iff.mpr agree⟩
  · rintro ⟨i, hi, err, refused⟩ t made r' said
    cases ready : drafts.mapM (Instance.row now) with
    | error err => exact Manager.says_bulkCreate_error entities provides ready said
    | ok rows =>
      obtain ⟨row, converted⟩ := Outcome.exists_mapM_ok.mp ⟨rows, ready⟩ i hi
      rw [refused] at converted
      cases converted

namespace RowOperation

/-- a new ticket -/
def ticket (title : String) : Instance := { entity := ⟨0, tickets⟩, values := [.null, .string title, .int 0] }

/-- a new ticket without a title -/
def untitled : Instance := .new ⟨0, tickets⟩ fun _ => 0

/-- makes a ticket -/
def makeTicket (title : String) : Handling := .ofPairs 0 (fun _ => 0) [("title", .string title)]

/-- a database that numbers the rows that are inserted -/
def numbering : Int64 → (call : Call) → call.Answer × Int64
  | n, .query .. => (.ok [⟨["id"], [.int (n + 1)]⟩], n + 1)
  | n, call => ((Instance.withoutRows () call).1, n)

theorem obliges_numbering (n : Int64) (call : Call) : tickets.Obliges ⟨call, (numbering n call).1⟩ := by
  cases call with
  | query on pinned text parameters =>
    refine ⟨⟨["id"], [.int (n + 1)]⟩, rfl, fun k p f hk hf => ?_⟩
    have returned : tickets.returningPositions = [0] := rfl
    rw [returned] at hk
    obtain ⟨rfl, rfl⟩ : k = 0 ∧ p = 0 := by
      cases k with
      | zero => exact ⟨rfl, (Option.some.inj hk).symm⟩
      | succ k => simp at hk
    obtain rfl := Option.some.inj hf
    exact ⟨.int (n + 1), rfl⟩
  | execute on pinned text parameters => exact ⟨0, rfl⟩
  | executeMany on pinned text rows => exact ⟨0, rfl⟩
  | _ => trivial

end RowOperation

open RowOperation (desk tickets ticket untitled makeTicket numbering)

/-- two tickets made at once go in one call, and saved they go in two; with one that has no title, nothing goes -/
theorem Held.creates_alike_tickets :
    let r := Registry.ofDatabases [desk]
    let m : Manager := { entity := ⟨0, tickets⟩ }
    let drafts := [ticket "leak", ticket "noise"]
    ∃ held, Held (fun _ => tickets) r held ∧ (∀ i ∈ untitled :: drafts, i ∈ held) ∧
      (∃ t made r₁ t' saves r₂, (m.bulkCreate [] ⟨0, 0⟩ drafts r).Says t (made, r₁) ∧
        (Instance.saveEach [] ⟨0, 0⟩ drafts r).Says t' (saves, r₂) ∧
        t.map (fun x => x.question) = [.executeMany desk none
          "INSERT INTO \"ticket\" (\"title\", \"rev\") VALUES ($1, $2) RETURNING \"id\""
          [[.string "leak", .int 1], [.string "noise", .int 1]]] ∧
        sentRows t' = sentRows t ∧ saves.map (fun done => done.2.valueAt 0) = [.int 1, .int 2] ∧
        ∃ instances, made = .ok instances ∧ List.Forall₂ (fun i done => done.1 = .ok () ∧
          i.AgreesBut tickets.returningPositions done.2) instances saves) ∧
      ∀ t made r₁, (m.bulkCreate [] ⟨0, 0⟩ (drafts ++ [untitled]) r).Says t (made, r₁) → t = [] := by
  intro r m drafts
  have start : Held (fun _ => tickets) r [] := .start [desk]
  have nothing (step : Handling) (new : step.operands = []) (held : List Instance) :
      ∀ i ∈ step.operands, i ∈ held := by
    rw [new]
    exact nofun
  have one : Held (fun _ => tickets) r ([ticket "leak"] ++ []) :=
    start.handle (nothing (makeTicket "leak") rfl _) trivial
      (Dialogue.says_run Instance.withoutRows () ((makeTicket "leak").run _ [] _))
  have two : Held (fun _ => tickets) r ([ticket "noise"] ++ ([ticket "leak"] ++ [])) :=
    one.handle (nothing (makeTicket "noise") rfl _) trivial
      (Dialogue.says_run Instance.withoutRows () ((makeTicket "noise").run _ [] _))
  have three : Held (fun _ => tickets) r ([untitled] ++ ([ticket "noise"] ++ ([ticket "leak"] ++ []))) :=
    two.handle (nothing (.new 0 fun _ => 0) rfl _) trivial
      (Dialogue.says_run Instance.withoutRows () ((Handling.new 0 fun _ => 0).run _ [] _))
  have own : ∀ i ∈ drafts ++ [untitled], i ∈ [untitled] ++ ([ticket "noise"] ++ ([ticket "leak"] ++ [])) := by
    simp [drafts]
  have each : ∀ i ∈ drafts ++ [untitled],
      i.entity = m.entity ∧ i.persisted = false ∧ i.databaseName = m.databaseName := by
    intro i hi
    obtain rfl | rfl | rfl : i = ticket "leak" ∨ i = ticket "noise" ∨ i = untitled := by simpa [drafts] using hi
    all_goals exact ⟨rfl, rfl, rfl⟩
  have attached : r.database m.databaseName = .ok desk := rfl
  have front {i : Instance} (hi : i ∈ drafts) : i ∈ drafts ++ [untitled] := List.mem_append_left _ hi
  obtain ⟨alike, -⟩ := three.creates_alike (m := m) rfl (List.cons_ne_nil _ _) attached
    (fun i hi => own i (front hi)) (fun i hi => each i (front hi)) [] ⟨0, 0⟩
  obtain ⟨-, refused⟩ := three.creates_alike (m := m) rfl (List.cons_ne_nil _ _) attached own each [] ⟨0, 0⟩
  have ready : drafts.mapM (Instance.row ⟨0, 0⟩) =
      .ok [[.string "leak", .int 1], [.string "noise", .int 1]] := rfl
  have missing : untitled.row ⟨0, 0⟩ = .error (Instance.nullRefused "title") := rfl
  obtain ⟨_, _, _, alike⟩ := alike _ ready
  have said := Dialogue.says_run numbering 0 (m.bulkCreate [] ⟨0, 0⟩ drafts r)
  have said' := Dialogue.says_run numbering 0 (Instance.saveEach [] ⟨0, 0⟩ drafts r)
  obtain ⟨_, sent, agree⟩ := alike _ _ _ _ _ _ said said' fun x hx => by
    rcases List.mem_append.mp hx with hx | hx
    · exact Dialogue.forall_mem_transcript RowOperation.obliges_numbering _ _ x hx
    · exact Dialogue.forall_mem_transcript RowOperation.obliges_numbering _ _ x hx
  have text : tickets.insertRow.text =
      "INSERT INTO \"ticket\" (\"title\", \"rev\") VALUES ($1, $2) RETURNING \"id\"" := rfl
  refine ⟨_, three, ?_, ⟨_, _, _, _, _, _, said, said', ?_, sent, rfl, agree⟩, fun t made r₁ said => ?_⟩
  · simp [drafts]
  · rw [← text]
    rfl
  · exact (refused ⟨untitled, by simp, _, missing⟩ t made r₁ said).1

end Tabula
