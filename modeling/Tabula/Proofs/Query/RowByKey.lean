import Mathlib.Data.List.Perm.Basic
import Tabula.Proofs.Database.StoredRow
import Tabula.Proofs.Model.KeyDeclarations
import Tabula.Proofs.Registry.Typed
/-!
# Rows by their keys

A row is fetched by the value of its key, by the names of the key fields with their values, or for an instance that has
the key.  `Manager.fetches_by_key`: all three send one and the same statement with the same parameters, whatever the
order of the names and of the fields; what is no key is refused and nothing is sent.
-/

namespace Tabula

/-! ## Keys -/

namespace Draft

variable {d : Draft} {m : Model}

/-- the key fields of a model have names that are pairwise distinct, even where other fields share one -/
theorem nodup_keyNames (built : d.build = .ok m) : m.keyNames.Nodup := by
  have checked := checked_of_build built
  rcases keyPositions_iff.mp checked.positions with ⟨_, _, few⟩ | ⟨names, _, _, _, lookups, distinct⟩
  · have length : m.keyNames.length ≤ 1 := by
      rw [Model.keyNames, List.length_map, Model.length_keyFields (sound_of_build built)]
      exact few
    rcases Nat.le_one_iff_eq_zero_or_eq_one.mp length with none | one
    · rw [List.eq_nil_of_length_eq_zero none]
      exact List.nodup_nil
    · obtain ⟨name, single⟩ := List.length_eq_one_iff.mp one
      rw [single]
      exact List.nodup_singleton name
  · rw [keyNames_of_lookups checked.fields lookups]
    -- a name that came twice would lead to one position twice
    have each : List.Forall₂ (· = ·) (names.map d.lookup) (m.key.map Except.ok) :=
      List.forall₂_map_left_iff.mpr (List.forall₂_map_right_iff.mpr (Outcome.mapM_ok.mp lookups))
    rw [List.forall₂_eq_eq_eq] at each
    have found : (names.map d.lookup).Nodup := each ▸ distinct.map fun _ _ => Except.ok.inj
    exact found.of_map

end Draft

/-- the key of some values: the value if it is one, or the list of several -/
def Value.ofKey : List Value → Value
  | [v] => v
  | vs => .list vs

namespace Manager

variable {model : Model} {named : List (String × Value)} {vs : List Value} {m : Manager} {active : Active}

/-- a key is taken apart into its values -/
theorem keyValues_ofKey (some : model.key ≠ []) (length : vs.length = model.key.length) :
    keyValues model (.ofKey vs) = vs := by
  cases vs with
  | nil => exact absurd (List.eq_nil_of_length_eq_zero length.symm) some
  | cons v rest =>
    cases rest with
    | nil =>
      have single : model.isComposite = false := by
        rw [Model.isComposite, ← length]
        rfl
      cases v <;> simp [Value.ofKey, keyValues, single]
    | cons w rest =>
      have several : model.isComposite = true := by
        rw [Model.isComposite, ← length]
        simp
      rw [Value.ofKey, keyValues, several]
      · rfl
      · intro u one
        cases one

/-- for a composite key, what is no list of its length is taken for values of another number -/
theorem length_keyValues_ne (composite : model.isComposite = true) {v : Value}
    (other : ∀ vs, v = .list vs → vs.length ≠ model.key.length) : (keyValues model v).length ≠ model.key.length := by
  have several : 1 < model.key.length := by simpa [Model.isComposite] using composite
  cases v with
  | list vs =>
    rw [keyValues, if_pos composite]
    exact other vs rfl
  | _ => exact Nat.ne_of_lt several

/-- an entry is found under its name if no other has the name -/
theorem lookup_of_mem {named : List (String × Value)} (distinct : (named.map Prod.fst).Nodup) {name : String} {v : Value}
    (mem : (name, v) ∈ named) : named.lookup name = some v := by
  induction named with
  | nil => cases mem
  | cons entry rest ih =>
    obtain ⟨fresh, distinct⟩ := List.nodup_cons.mp distinct
    rcases List.mem_cons.mp mem with rfl | later
    · exact List.lookup_cons_self
    · have other : (name == entry.1) = false := by
        refine beq_eq_false_iff_ne.mpr ?_
        rintro rfl
        exact fresh (List.mem_map.mpr ⟨_, later, rfl⟩)
      rw [List.lookup_cons, other]
      exact ih distinct later

/-- the value that a key field is given -/
def namedValue (model : Model) (named : List (String × Value)) (name : String) : Outcome Value :=
  match named.lookup name with
  | some v => .ok v
  | none => failure .keyIntegrity ("'" ++ model.name ++ "' primary key needs " ++
      Text.shownList (model.keyNames.map Text.shown) ++ ", missing '" ++ name ++ "'")

theorem namedKey_eq (model : Model) (named : List (String × Value)) :
    namedKey model named = model.keyNames.mapM (namedValue model named) >>= fun values =>
      match named.find? fun p => !model.keyNames.contains p.1 with
      | some (extra, _) =>
        failure .keyIntegrity ("'" ++ extra ++ "' is not a primary key field of '" ++ model.name ++ "'")
      | none => .ok values := rfl

theorem namedValue_ok {name : String} {v : Value} : namedValue model named name = .ok v ↔ named.lookup name = some v := by
  unfold namedValue
  cases named.lookup name <;> simp [failure]

/-- every key field has to be named, and nothing else -/
theorem namedKey_ok : namedKey model named = .ok vs ↔
    model.keyNames.mapM (namedValue model named) = .ok vs ∧ ∀ p ∈ named, p.1 ∈ model.keyNames := by
  have own : (named.find? fun p => !model.keyNames.contains p.1) = none ↔ ∀ p ∈ named, p.1 ∈ model.keyNames := by
    simp [List.find?_eq_none]
  rw [namedKey_eq, Outcome.bind_ok, ← own]
  cases named.find? fun p => !model.keyNames.contains p.1 <;> simp [failure]

/-- whatever is refused is no key -/
theorem kind_of_namedKey {e : Error} (h : namedKey model named = .error e) : e.kind = .keyIntegrity := by
  rw [namedKey_eq] at h
  rcases Outcome.bind_error.mp h with h | ⟨values, _, h⟩
  · obtain ⟨name, _, h⟩ := Outcome.exists_of_mapM_error h
    unfold namedValue at h
    split at h
    · cases h
    · exact Except.error.inj h ▸ rfl
  · split at h
    · exact Except.error.inj h ▸ rfl
    · cases h

/-- the names of a key field with its value each, in any order -/
theorem namedKey_of_perm (distinct : model.keyNames.Nodup) (length : vs.length = model.keyNames.length)
    (order : named.Perm (model.keyNames.zip vs)) : namedKey model named = .ok vs := by
  have names : (model.keyNames.zip vs).map Prod.fst = model.keyNames := List.map_fst_zip (Nat.le_of_eq length.symm)
  have own : (named.map Prod.fst).Nodup := by
    rw [(order.map Prod.fst).nodup_iff, names]
    exact distinct
  refine namedKey_ok.mpr ⟨Outcome.mapM_ok.mpr ?_, fun p hp => ?_⟩
  · refine List.forall₂_iff_zip.mpr ⟨length.symm, fun {name v} mem => ?_⟩
    exact namedValue_ok.mpr (lookup_of_mem own (order.mem_iff.mpr mem))
  · rw [← names]
    exact List.mem_map_of_mem (order.mem_iff.mp hp)

/-- a key is refused if a key field is not named, or something else is -/
theorem namedKey_error (wrong : (∃ name ∈ model.keyNames, name ∉ named.map Prod.fst) ∨
      ∃ name ∈ named.map Prod.fst, name ∉ model.keyNames) :
    ∃ e, namedKey model named = .error e ∧ e.kind = .keyIntegrity := by
  cases made : namedKey model named with
  | error e => exact ⟨e, rfl, kind_of_namedKey made⟩
  | ok vs =>
    obtain ⟨found, own⟩ := namedKey_ok.mp made
    rcases wrong with ⟨name, mem, missing⟩ | ⟨name, mem, extra⟩
    · obtain ⟨v, _, looked⟩ := Outcome.exists_result_of_mem found mem
      exact absurd (List.mem_map.mpr ⟨_, Keyed.mem_of_lookup (namedValue_ok.mp looked), rfl⟩) missing
    · obtain ⟨p, hp, rfl⟩ := List.mem_map.mp mem
      exact absurd (own p hp) extra

end Manager

/-! ## What is said to fetch a row -/

/-- what is said to fetch the row of an entity with a key: the one statement about the row, or nothing if the database is
not attached or a value of the key cannot be stored -/
inductive Registry.Fetches (r : Registry) (e : Entity) (name : String) (active : Active) (key : List Value) :
    List (Dialogue.Exchange Call Call.Answer) → Prop where
  | unattached {err : Error} (missing : r.mapper e name = .error err) : Fetches r e name active key []
  | refused {err : Error} (unstored : Mapper.keyParameters e key = .error err) : Fetches r e name active key []
  | asked {mapper : Mapper} {r' : Registry} {parameters : List Value} {answer : Outcome (List Row)}
    (found : r.mapper e name = .ok (mapper, r')) (stored : Mapper.keyParameters e key = .ok parameters) :
    Fetches r e name active key
      [⟨.query mapper.database (mapper.database.pinned active) e.model.selectRow.text parameters, answer⟩]

section Fetching

variable {models : Nat → Model} {e : Entity} {r r' : Registry} {name : String} {active : Active} {key : List Value}
  {t : List (Dialogue.Exchange Call Call.Answer)}

/-- what a mapper says for a key of the right length -/
theorem Mapper.says_load {m : Mapper} {on : Database} {number : Nat} {used : List UpdateShape}
    (kept : m.Keeps e on number used) (length : key.length = e.model.key.length) :
    (∃ x, (m.load active key).Says t x) ↔
      (t = [] ∧ ∃ err, keyParameters e key = .error err) ∨ ∃ parameters answer,
        keyParameters e key = .ok parameters ∧
        t = [⟨.query m.database (m.database.pinned active) e.model.selectRow.text parameters, answer⟩] := by
  have text := kept.fetch.1
  have database : m.fetch.2.database = m.database := rfl
  unfold Mapper.load
  rw [if_neg (by rw [kept.model, length]; exact fun other => other rfl), kept.entity]
  cases stored : keyParameters e key with
  | error err => simp [Dialogue.says_pure]
  | ok parameters =>
    simp only [text, database]
    constructor
    · rintro ⟨x, said⟩
      obtain ⟨answer, back, rfl, rest⟩ := Dialogue.says_ask.mp said
      obtain ⟨rfl, _⟩ := Dialogue.says_pure.mp rest
      exact .inr ⟨parameters, answer, rfl, rfl⟩
    · rintro (⟨_, _, other⟩ | ⟨_, answer, same, rfl⟩)
      · cases other
      · cases same
        exact ⟨_, Dialogue.says_ask.mpr ⟨answer, [], rfl, Dialogue.says_pure.mpr ⟨rfl, rfl⟩⟩⟩

/-- a mapper refuses a key of another length and says nothing -/
theorem Mapper.says_load_short {m m' : Mapper} (length : key.length ≠ m.model.key.length)
    {answer : Outcome (Option Instance)} (said : (m.load active key).Says t (answer, m')) :
    t = [] ∧ ∃ err, answer = .error err ∧ err.kind = .keyIntegrity := by
  unfold Mapper.load at said
  rw [if_pos length] at said
  obtain ⟨rfl, same⟩ := Dialogue.says_pure.mp said
  cases same
  exact ⟨rfl, _, rfl, rfl⟩

/-- the work of a mapper that is found for the key -/
theorem Registry.says_withMapper_load (typed : r.Typed models) (numbered : e.IsNumbered models)
    (length : key.length = e.model.key.length) :
    (∃ x, (withMapper e name (fun mapper => mapper.load active key) r).Says t x) ↔ r.Fetches e name active key t := by
  cases found : r.mapper e name with
  | error err =>
    rw [withMapper, found]
    constructor
    · rintro ⟨x, said⟩
      obtain ⟨rfl, _⟩ := Dialogue.says_pure.mp said
      exact .unattached found
    · intro fetches
      have silent : t = [] := by
        cases fetches with
        | unattached | refused => rfl
        | asked other => cases found.symm.trans other
      exact ⟨_, Dialogue.says_pure.mpr ⟨silent, rfl⟩⟩
  | ok found' =>
    obtain ⟨m, r'⟩ := found'
    obtain ⟨_, _, on, used, kept⟩ := typed.mapper numbered found
    have within : (∃ x, (withMapper e name (fun mapper => mapper.load active key) r).Says t x) ↔
        ∃ x, (m.load active key).Says t x := by
      rw [withMapper, found]
      simp only [Dialogue.says_bind_pure]
      constructor
      · rintro ⟨_, x, said, _⟩
        exact ⟨x, said⟩
      · rintro ⟨x, said⟩
        exact ⟨_, x, said, rfl⟩
    rw [within, Mapper.says_load kept length]
    constructor
    · rintro (⟨rfl, err, unstored⟩ | ⟨parameters, answer, stored, rfl⟩)
      · exact .refused unstored
      · exact .asked found stored
    · intro fetches
      cases fetches with
      | unattached missing => cases found.symm.trans missing
      | refused unstored => exact .inl ⟨rfl, _, unstored⟩
      | asked other stored =>
        cases found.symm.trans other
        exact .inr ⟨_, _, stored, rfl⟩

/-! ## The ways to a row -/

variable {m : Manager} {i : Instance}

/-- what a load makes of a row that was looked for -/
def Manager.loaded (m : Manager) (found : Outcome (Option Instance)) : Outcome Instance :=
  found.bind fun
    | some i => .ok i
    | none => failure .doesNotExist (m.entity.model.name ++ " matching pk does not exist")

/-- what a refresh makes of a row that was looked for -/
def Instance.refreshed (i : Instance) : Outcome (Option Instance) → Outcome Unit × Instance
  | .error e => (.error e, i)
  | .ok none => (failure .doesNotExist (i.text ++ " no longer exists"), i)
  | .ok (some fresh) => (.ok (), i.refreshedFrom fresh)

theorem Manager.says_loadKey {x : Outcome Instance × Registry} : (m.loadKey active key r).Says t x ↔
    ∃ found, (Registry.withMapper m.entity m.databaseName (fun mapper => mapper.load active key) r).Says t found ∧
      x = (m.loaded found.1, found.2) := by
  have shape : m.loadKey active key r =
      Registry.withMapper m.entity m.databaseName (fun mapper => mapper.load active key) r >>= fun found =>
        pure (m.loaded found.1, found.2) := rfl
  rw [shape, Dialogue.says_bind_pure]

theorem Instance.says_refresh {x : (Outcome Unit × Instance) × Registry} : (i.refresh active r).Says t x ↔
    ∃ found, (Registry.withMapper i.entity i.databaseName (fun mapper => mapper.load active i.keyValues) r).Says t found ∧
      x = (i.refreshed found.1, found.2) := by
  have shape : i.refresh active r =
      Registry.withMapper i.entity i.databaseName (fun mapper => mapper.load active i.keyValues) r >>= fun found =>
        pure (i.refreshed found.1, found.2) := by
    refine congrArg _ (funext fun found => ?_)
    obtain ⟨answer, r'⟩ := found
    match answer with
    | .error _ | .ok none | .ok (some _) => rfl
  rw [shape, Dialogue.says_bind_pure]

/-- a refresh gives what a load with the instance's key gives: the values of the same row, or an error of the same
kind -/
theorem Instance.says_refresh_iff (entity : i.entity = m.entity) (database : i.databaseName = m.databaseName)
    (values : i.keyValues = key) :
    (∀ j, (i.refresh active r).Says t ((.ok (), j), r') ↔
      ∃ fresh, (m.loadKey active key r).Says t (.ok fresh, r') ∧ j = i.refreshedFrom fresh) ∧
    ∀ err j, (i.refresh active r).Says t ((.error err, j), r') →
      j = i ∧ ∃ err', (m.loadKey active key r).Says t (.error err', r') ∧ err'.kind = err.kind := by
  have looked : ∀ found,
      (Registry.withMapper i.entity i.databaseName (fun mapper => mapper.load active i.keyValues) r).Says t found ↔
        (Registry.withMapper m.entity m.databaseName (fun mapper => mapper.load active key) r).Says t found := by
    intro found
    rw [entity, database, values]
  refine ⟨fun j => ⟨fun said => ?_, ?_⟩, fun err j said => ?_⟩
  · obtain ⟨⟨found, r₁⟩, looking, same⟩ := says_refresh.mp said
    match found with
    | .error _ | .ok none => cases same
    | .ok (some fresh) =>
      cases same
      exact ⟨fresh, Manager.says_loadKey.mpr ⟨_, (looked _).mp looking, rfl⟩, rfl⟩
  · rintro ⟨fresh, said, rfl⟩
    obtain ⟨⟨found, r₁⟩, looking, same⟩ := Manager.says_loadKey.mp said
    match found with
    | .error _ | .ok none => cases same
    | .ok (some fresh') =>
      cases same
      exact says_refresh.mpr ⟨_, (looked _).mpr looking, rfl⟩
  · obtain ⟨⟨found, r₁⟩, looking, same⟩ := says_refresh.mp said
    match found with
    | .error _ | .ok none =>
      cases same
      exact ⟨rfl, _, Manager.says_loadKey.mpr ⟨_, (looked _).mp looking, rfl⟩, rfl⟩
    | .ok (some _) => cases same

/-- the loads and the refreshes of a key say what is said to fetch its row -/
theorem Manager.says_loadKey_iff (typed : r.Typed models) (numbered : m.entity.IsNumbered models)
    (length : key.length = m.entity.model.key.length) :
    (∃ x, (m.loadKey active key r).Says t x) ↔ r.Fetches m.entity m.databaseName active key t := by
  rw [← Registry.says_withMapper_load typed numbered length]
  constructor
  · rintro ⟨x, said⟩
    obtain ⟨found, said, _⟩ := says_loadKey.mp said
    exact ⟨found, said⟩
  · rintro ⟨found, said⟩
    exact ⟨_, says_loadKey.mpr ⟨found, said, rfl⟩⟩

theorem Instance.says_refresh_iff_fetches (typed : r.Typed models) (numbered : i.entity.IsNumbered models) :
    (∃ x, (i.refresh active r).Says t x) ↔ r.Fetches i.entity i.databaseName active i.keyValues t := by
  have length : i.keyValues.length = i.entity.model.key.length := List.length_map _
  rw [← Registry.says_withMapper_load typed numbered length]
  constructor
  · rintro ⟨x, said⟩
    obtain ⟨found, said, _⟩ := says_refresh.mp said
    exact ⟨found, said⟩
  · rintro ⟨found, said⟩
    exact ⟨_, says_refresh.mpr ⟨found, said, rfl⟩⟩

/-- a key of another length is refused, and nothing is said -/
theorem Manager.says_loadKey_short (typed : r.Typed models) (numbered : m.entity.IsNumbered models)
    (length : key.length ≠ m.entity.model.key.length) {x : Outcome Instance}
    (said : (m.loadKey active key r).Says t (x, r')) : t = [] ∧ ∃ err, x = .error err ∧
      (err.kind = .keyIntegrity ∨ r.mapper m.entity m.databaseName = .error err) := by
  obtain ⟨⟨found, r₁⟩, looking, same⟩ := says_loadKey.mp said
  cases same
  unfold Registry.withMapper at looking
  split at looking
  · next err missing =>
    obtain ⟨rfl, same⟩ := Dialogue.says_pure.mp looking
    cases same
    exact ⟨rfl, err, rfl, .inr missing⟩
  · next mapper r₂ here =>
    obtain ⟨_, _, on, used, kept⟩ := typed.mapper numbered here
    obtain ⟨⟨answer, mapper'⟩, asked, same⟩ := Dialogue.says_bind_pure.mp looking
    cases same
    obtain ⟨rfl, err, rfl, kind⟩ := Mapper.says_load_short (by rw [kept.model]; exact length) asked
    exact ⟨rfl, err, rfl, .inl kind⟩

end Fetching

/-! ## One row by any of its keys -/

theorem Instance.key_eq_ofKey (i : Instance) : i.key = .ofKey i.keyValues := by
  unfold key
  generalize i.keyValues = vs
  match vs with
  | [] | [_] | _ :: _ :: _ => rfl

/-- the parameters for a key are those that its instance is written and deleted with -/
theorem Mapper.keyParameters_keyValues (i : Instance) :
    keyParameters i.entity i.keyValues = parameters i i.model.key := by
  have pairs : i.entity.model.key.zip i.keyValues = i.model.key.map fun p => (p, i.valueAt p) := by
    rw [Instance.keyValues, Instance.model]
    exact List.map_prod_left_eq_zip.symm
  rw [keyParameters, pairs, List.mapM_map]
  rfl

namespace Model

/-- **The statement about a row is read as the row with the key.** -/
theorem ofText_selectRow {m : Model} (sound : m.Sound) (nonempty : m.key ≠ []) :
    Sql.RowStatement.ofText? m.selectRow.text = some (.fetch m.columns m.table (m.numbered 1 m.key)) := by
  obtain ⟨p, rest, first⟩ := List.exists_cons_of_ne_nil nonempty
  have inside : p < m.columns.length := by
    rw [columns, List.length_map]
    exact sound.key_lt p (first ▸ List.mem_cons_self)
  have columns : m.columns ≠ [] := List.ne_nil_of_length_pos (Nat.zero_lt_of_lt inside)
  rw [selectRow_eq, Sql.RowStatement.ofText_select m.table columns (m.numbered_ne_nil 1 nonempty)]

end Model

/-- the parameters for a key are the stored forms of its values, field by field in key order -/
theorem Mapper.forall₂_keyParameters {e : Entity} (sound : e.model.Sound) {vs parameters : List Value}
    (stored : keyParameters e vs = .ok parameters) :
    List.Forall₂ (fun pv c => ∃ f, e.model.fields[pv.1]? = some f ∧ f.toStorage pv.2 = .ok c) (e.model.key.zip vs)
      parameters := by
  have each := (List.forall₂_and_left (p := fun pv => pv ∈ e.model.key.zip vs) _ _).mpr
    ⟨fun _ h => h, Outcome.mapM_ok.mp stored⟩
  refine each.imp fun pv c ⟨mem, own⟩ => ?_
  have inside := sound.key_lt pv.1 (List.of_mem_zip mem).1
  have field := List.getElem?_eq_getElem inside
  rw [parameter, field] at own
  exact ⟨_, field, own⟩

/-- **All ways to address a row by its key agree.**  Take a model that is not abstract, and values for the fields of its
key.  A load with the key and a refresh of an instance that has it say just what is said to fetch the row with the key:
the one statement about the row, which compares the columns of the key in key order with the stored forms of the values,
or nothing if the database is not attached or a value cannot be stored.  The fields named in any order are a load with
the key, and what is refreshed takes the values of the row that is loaded with the instance's own key.  A key field that
is not named, a name that is not that of a key field, and a composite key with another number of values are refused, and
nothing is said. -/
theorem Manager.fetches_by_key {d : Draft} {m : Manager} (built : d.build = .ok m.entity.model)
    (concrete : m.entity.model.isAbstract = false) {models : Nat → Model} {r : Registry} (typed : r.Typed models)
    (numbered : m.entity.IsNumbered models) (active : Active) :
    let model := m.entity.model
    let fetches := r.Fetches m.entity m.databaseName active
    Sql.RowStatement.ofText? model.selectRow.text =
      some (.fetch model.columns model.table (model.numbered 1 model.key)) ∧
    (∀ vs, vs.length = model.key.length →
      (∀ parameters, Mapper.keyParameters m.entity vs = .ok parameters →
        List.Forall₂ (fun pv c => ∃ f, model.fields[pv.1]? = some f ∧ f.toStorage pv.2 = .ok c) (model.key.zip vs)
          parameters) ∧
      (∀ t, (∃ x, (m.load active (.ofKey vs) r).Says t x) ↔ fetches vs t) ∧
      (∀ named, named.Perm (model.keyNames.zip vs) → m.getByKey active named = m.load active (.ofKey vs)) ∧
      ∀ i : Instance, i.entity = m.entity → i.keyValues = vs →
        i.key = .ofKey vs ∧ Mapper.keyParameters m.entity vs = Mapper.parameters i model.key ∧
        (i.databaseName = m.databaseName → (∀ t, (∃ x, (i.refresh active r).Says t x) ↔ fetches vs t) ∧
          ∀ t j r', (i.refresh active r).Says t ((.ok (), j), r') ↔
            ∃ fresh, (m.load active i.key r).Says t (.ok fresh, r') ∧ j = i.refreshedFrom fresh)) ∧
    (∀ named, (∃ name ∈ model.keyNames, name ∉ named.map Prod.fst) ∨
        (∃ name ∈ named.map Prod.fst, name ∉ model.keyNames) →
      ∃ err, m.getByKey active named = pure (.error err) ∧ err.kind = .keyIntegrity) ∧
    (model.isComposite = true → ∀ v, (∀ vs, v = .list vs → vs.length ≠ model.key.length) → ∀ t x r',
      (m.load active v r).Says t (x, r') → t = [] ∧
        ∃ err, x = .error err ∧ (err.kind = .keyIntegrity ∨ r.mapper m.entity m.databaseName = .error err)) := by
  intro model fetches
  have sound := Draft.sound_of_build built
  have nonempty : model.key ≠ [] := sound.key_ne concrete
  have names : model.keyNames.length = model.key.length := by
    rw [Model.keyNames, List.length_map, Model.length_keyFields sound]
  refine ⟨Model.ofText_selectRow sound nonempty, fun vs length => ?_, fun named wrong => ?_, fun composite v other => ?_⟩
  · have load : m.load active (.ofKey vs) = m.loadKey active vs := by rw [load, keyValues_ofKey nonempty length]
    refine ⟨fun parameters => Mapper.forall₂_keyParameters sound, fun t => ?_, fun named order => ?_,
      fun i entity values => ?_⟩
    · rw [load]
      exact says_loadKey_iff typed numbered length
    · rw [load, getByKey, namedKey_of_perm (Draft.nodup_keyNames built) (length.trans names.symm) order]
    · have key : i.key = .ofKey vs := by rw [i.key_eq_ofKey, values]
      have own : i.model = model := congrArg Entity.model entity
      refine ⟨key, ?_, fun database => ⟨fun t => ?_, fun t j r' => ?_⟩⟩
      · rw [← own, ← Mapper.keyParameters_keyValues, entity, values]
      · rw [Instance.says_refresh_iff_fetches typed (entity ▸ numbered), entity, database, values]
      · rw [key, load]
        exact (Instance.says_refresh_iff entity database values).1 j
  · obtain ⟨err, refused, kind⟩ := namedKey_error wrong
    exact ⟨err, by rw [getByKey, refused], kind⟩
  · intro t x r' said
    exact says_loadKey_short typed numbered (length_keyValues_ne composite other) said

/-- seats, identified by their number and then their row -/
def seats : Model where
  name := "Seat"
  table := "seat"
  database := defaultDatabase
  isAbstract := false
  description := none
  uniqueTogether := []
  indexes := []
  fields := [Field.new "row" .text, Field.new "number" .int, Field.new "taken" .boolean]
  key := [1, 0]

/-- a seat that is named row first is fetched by its number and row; one without a number is not fetched -/
theorem Manager.fetches_by_key_seats :
    let m : Manager := { entity := ⟨0, seats⟩ }
    let named : List (String × Value) := [("row", .string "B"), ("number", .int 4)]
    m.getByKey [] named = m.load [] (.list [.int 4, .string "B"]) ∧
    (∀ t x, (m.getByKey [] named (.ofDatabases [⟨defaultDatabase, 0⟩])).Says t x →
      t.map (fun y => y.question) = [.query ⟨defaultDatabase, 0⟩ none
        "SELECT \"row\", \"number\", \"taken\" FROM \"seat\" WHERE \"number\" = $1 AND \"row\" = $2"
        [.int 4, .string "B"]]) ∧
    ∃ err, m.getByKey [] [("row", .string "B")] = pure (.error err) ∧ err.kind = .keyIntegrity := by
  intro m named
  have built : ({ name := "Seat", fields := seats.fields, key := ["number", "row"] } : Draft).build = .ok seats := rfl
  have typed : (Registry.ofDatabases [⟨defaultDatabase, 0⟩]).Typed fun _ => seats := Registry.typed_ofDatabases _
  obtain ⟨_, agree, refused, _⟩ := fetches_by_key (m := m) built rfl typed rfl []
  obtain ⟨_, loads, same, _⟩ := agree [.int 4, .string "B"] rfl
  have order : m.getByKey [] named = m.load [] (.ofKey [.int 4, .string "B"]) := same named (.swap ..)
  refine ⟨order, fun t x said => ?_, refused _ (.inl ⟨"number", by decide, by decide⟩)⟩
  rw [order] at said
  cases (loads t).mp ⟨x, said⟩ with
  | unattached missing => cases missing
  | refused unstored => cases unstored
  | asked found stored =>
    have text : seats.selectRow.text =
        "SELECT \"row\", \"number\", \"taken\" FROM \"seat\" WHERE \"number\" = $1 AND \"row\" = $2" := rfl
    cases found
    cases stored
    exact congrArg (fun text => [Call.query ⟨defaultDatabase, 0⟩ none text [.int 4, .string "B"]]) text

end Tabula
