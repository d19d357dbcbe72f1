import Tabula.Proofs.Field.Conversion
import Tabula.Proofs.Instance.BulkCreation
import Tabula.Proofs.Instance.RowKey
import Tabula.Proofs.Model.Names
/-!
# What a created row holds

A row is created from values under the names of fields.  `Manager.says_create` takes the creation apart, whatever else
the call is answered with: the values are set one after the other, automatic ones are filled in, and one call inserts
what all that is stored as.  What is stored for a given value is bound to the column of its field.
-/

namespace Tabula

open Dialogue (Always Exchange)

/-! ## Cells that show what was stored -/

namespace Value

/-- whether values are the same or count as equal; a floating-point number that is none does not equal itself -/
def Alike (v w : Value) : Prop := v = w ∨ v.same w = true

theorem alike_refl (v : Value) : v.Alike v := .inl rfl

end Value

namespace Field

variable {f : Field} {v w c d : Value}

/-- a cell of a column that holds lengths of time equals no other -/
theorem eq_of_same_micros (kind : f.kind = .span) (holds : f.kind.holds c = true) (same : c.same d = true) : c = d := by
  rw [kind] at holds
  cases c with
  | null => cases d <;> first | rfl | cases same
  | int n => cases d <;> first | exact congrArg _ (eq_of_beq same) | cases same
  | _ => cases holds

/-- what is read from a cell is stored like what the cell was written for -/
theorem toStorage_of_alike (stored : f.toStorage v = .ok c) (alike : c.Alike d) (read : f.accept d = .ok w) :
    ∃ s, f.toStorage w = .ok s ∧ c.Alike s := by
  have itself : f.toStorage c = .ok c := toStorage_toStorage stored
  rw [toStorage_eq_of_accept read]
  rcases alike with rfl | same
  · exact ⟨c, itself, c.alike_refl⟩
  · have holds : f.kind.holds c = true := holds_of_toStorage stored
    by_cases micros : f.kind = .span
    · obtain rfl := eq_of_same_micros micros holds same
      exact ⟨c, itself, c.alike_refl⟩
    · have own : f.kind.owns c = true := by
        unfold FieldKind.holds at holds
        split at holds <;> simp_all
      obtain ⟨s, stores, equal⟩ := toStorage_of_same own same itself
      exact ⟨s, stores, .inr equal⟩

end Field

/-! ## Values that are set -/

/-- whether the values under one name are all the same -/
def Unequivocal (pairs : List (String × Value)) : Prop := ∀ a ∈ pairs, ∀ b ∈ pairs, a.1 = b.1 → a.2 = b.2

namespace Instance

variable {i j : Instance} {pairs : List (String × Value)}

theorem setAll_append (i : Instance) (front back : List (String × Value)) :
    i.setAll (front ++ back) = i.setAll front >>= fun j => j.setAll back :=
  List.foldlM_append

theorem length_set {name : String} {v : Value} (h : i.set name v = .ok j) : j.values.length = i.values.length := by
  obtain ⟨p, _, w, _, _, _, rfl, _⟩ := set_ok h
  exact i.length_withAt p w

theorem length_setAll (h : i.setAll pairs = .ok j) : j.values.length = i.values.length := by
  induction pairs generalizing i with
  | nil => rw [Outcome.pure_ok.mp h]
  | cons a rest ih =>
    rw [← List.singleton_append, setAll_append] at h
    obtain ⟨k, first, later⟩ := Outcome.bind_ok.mp h
    obtain ⟨k', set, last⟩ := Outcome.bind_ok.mp first
    obtain rfl := Outcome.pure_ok.mp last
    exact (ih later).trans (length_set set)

theorem model_setAll (h : i.setAll pairs = .ok j) : j.model = i.model := by
  rw [(isVariant_setAll h).eq_withValues]
  rfl

/-- **Each of the values that are set is in its field in the end**, as the field accepts it. -/
theorem valueAt_setAll (clear : Unequivocal pairs) (length : i.values.length = i.model.fields.length)
    (h : i.setAll pairs = .ok j) : ∀ l ∈ pairs, ∃ p f, i.model.position l.1 = .ok p ∧ i.model.fields[p]? = some f ∧
      f.accept l.2 = .ok (j.valueAt p) := by
  induction pairs using List.reverseRecOn generalizing j with
  | nil => exact nofun
  | append_singleton front a ih =>
    rw [setAll_append] at h
    obtain ⟨k, before, last⟩ := Outcome.bind_ok.mp h
    obtain ⟨k', set, same⟩ := Outcome.bind_ok.mp last
    obtain rfl := Outcome.pure_ok.mp same
    obtain ⟨p, f, w, position, field, accepted, rfl, _⟩ := set_ok set
    rw [model_setAll before] at position field
    have inside : p < k.values.length := by
      rw [length_setAll before, length]
      exact Model.lt_of_position position
    have earlier := ih (fun b hb c hc => clear b (List.mem_append_left _ hb) c (List.mem_append_left _ hc)) before
    intro l hl
    by_cases named : l.1 = a.1
    · rw [clear l hl a (List.mem_append_right _ List.mem_cons_self) named, named]
      exact ⟨p, f, position, field, by rwa [valueAt_withAt_self inside]⟩
    · have front : l ∈ front := (List.mem_append.mp hl).resolve_right fun last =>
        named (congrArg Prod.fst (List.mem_singleton.mp last))
      obtain ⟨q, g, position', field', accepted'⟩ := earlier l front
      -- the fields at the two positions have different names
      have other : p ≠ q := by
        rintro rfl
        have own := Model.name_of_field ((Model.field_of_position position).trans field)
        have own' := Model.name_of_field ((Model.field_of_position position').trans field)
        exact named (own'.symm.trans own)
      exact ⟨q, g, position', field', by rwa [valueAt_withAt_ne other]⟩

end Instance

/-! ## The call that inserts -/

/-- the call that inserts a row of parameters, and the cells that come back for it -/
inductive Model.Inserts (m : Model) (on : Database) (pinned : Option Connection) (bound : List Value) :
    List Value → List (Exchange Call Call.Answer) → Prop where
  | executed (n : Nat) : Inserts m on pinned bound [] [⟨.execute on pinned m.insertRow.text bound, .ok n⟩]
  | returned (row : Row) (others : List Row) :
    Inserts m on pinned bound row.values [⟨.query on pinned m.insertRow.text bound, .ok (row :: others)⟩]

/-- an insertion that is fetched has a row to read -/
theorem Model.Inserts.of_query {m : Model} {on on' : Database} {pinned pinned' : Option Connection}
    {bound back parameters : List Value} {text : String} {answer : Outcome (List Row)}
    (h : m.Inserts on pinned bound back [⟨.query on' pinned' text parameters, answer⟩]) :
    text = m.insertRow.text ∧ parameters = bound ∧ ∃ row others, answer = .ok (row :: others) ∧ back = row.values := by
  cases h
  exact ⟨rfl, rfl, _, _, rfl, rfl⟩

/-- an insertion that succeeds has sent its row of parameters, and what came back has been read -/
theorem Mapper.Keeps.inserts_of_says {mapper mapper' : Mapper} {e : Entity} {on : Database} {number : Nat}
    {used : List UpdateShape} {active : Active} {i j : Instance} {t : List (Exchange Call Call.Answer)}
    (kept : mapper.Keeps e on number used) (said : (mapper.insert active i).Says t ((.ok (), j), mapper')) :
    ∃ bound cells, Mapper.parameters i e.model.insertPositions = .ok bound ∧
      e.model.Inserts on (on.pinned active) bound cells t ∧
      Mapper.readBack i cells e.model.returningPositions = (.ok (), j) := by
  obtain ⟨text, kept'⟩ := kept.insertion
  unfold Mapper.insert at said
  simp only [text, kept'.model, kept'.database] at said
  split at said
  · obtain ⟨_, same⟩ := Dialogue.says_pure.mp said
    cases same
  · next bound converts =>
    split at said
    · next empty =>
      obtain ⟨reply, back, rfl, rest⟩ := Dialogue.says_ask.mp said
      obtain ⟨rfl, same⟩ := Dialogue.says_pure.mp rest
      injection same with same _
      injection same with answered same
      subst same
      obtain ⟨n, rfl, _⟩ := Outcome.map_ok.mp answered.symm
      exact ⟨bound, [], converts, .executed n, by rw [List.isEmpty_iff.mp empty]; rfl⟩
    · obtain ⟨reply, back, rfl, rest⟩ := Dialogue.says_ask.mp said
      match reply with
      | .error err =>
        obtain ⟨_, same⟩ := Dialogue.says_pure.mp rest
        cases same
      | .ok [] =>
        obtain ⟨_, same⟩ := Dialogue.says_pure.mp rest
        cases same
      | .ok (row :: others) =>
        obtain ⟨rfl, same⟩ := Dialogue.says_pure.mp rest
        injection same with reads _
        exact ⟨bound, row.values, converts, .returned row others, reads.symm⟩

/-- a row that is inserted is filled in before and read back after -/
theorem Instance.inserts_of_says {mapper mapper' : Mapper} {e : Entity} {on : Database} {number : Nat}
    {used : List UpdateShape} {active : Active} {now : Instant} {i j : Instance} {t : List (Exchange Call Call.Answer)}
    (kept : mapper.Keeps e on number used) (said : (i.insertRow mapper active now).Says t ((.ok (), j), mapper')) :
    ∃ filled bound cells made, i.filledIn now = .ok filled ∧
      Mapper.parameters filled e.model.insertPositions = .ok bound ∧
      e.model.Inserts on (on.pinned active) bound cells t ∧
      Mapper.readBack filled cells e.model.returningPositions = (.ok (), made) ∧ j = made.storedIn i.databaseName := by
  unfold insertRow at said
  split at said
  · obtain ⟨_, same⟩ := Dialogue.says_pure.mp said
    cases same
  · next filled fills =>
    split at said
    · obtain ⟨_, same⟩ := Dialogue.says_pure.mp said
      cases same
    · obtain ⟨front, ⟨⟨answer, made⟩, m₁⟩, back, rfl, asked, rest⟩ := Dialogue.says_bind.mp said
      cases answer with
      | error err =>
        obtain ⟨_, same⟩ := Dialogue.says_pure.mp rest
        cases same
      | ok _ =>
        obtain ⟨rfl, same⟩ := Dialogue.says_pure.mp rest
        cases same
        obtain ⟨bound, cells, converts, inserts, reads⟩ := kept.inserts_of_says asked
        exact ⟨filled, bound, cells, made, fills, converts, by rwa [List.append_nil], reads, rfl⟩

/-- whatever comes of an insertion, its mapper is left with the texts of its own -/
theorem Instance.always_keeps_insertRow {mapper : Mapper} {e : Entity} {on : Database} {number : Nat}
    {used : List UpdateShape} (kept : mapper.Keeps e on number used) (active : Active) (now : Instant) (i : Instance) :
    Always (fun x => x.2.Keeps e on number used) (i.insertRow mapper active now) := by
  unfold insertRow
  split
  · exact kept
  · split
    · exact kept
    · rw [Dialogue.always_bind]
      refine (kept.always_insert active _).mono ?_
      rintro ⟨⟨answer, j⟩, m⟩ kept
      cases answer <;> exact kept

namespace Manager

variable {m : Manager} {on : Database} {active : Active} {now : Instant} {draw : Nat → Nat}
  {pairs : List (String × Value)} {r r' : Registry} {t : List (Exchange Call Call.Answer)} {i : Instance}
  {bound cells : List Value}

/-- whether an instance is made of values that are set, filled in, bound as parameters and read back from cells -/
inductive Makes (m : Manager) (now : Instant) (draw : Nat → Nat) (pairs : List (String × Value))
    (bound cells : List Value) : Instance → Prop where
  | stored {assigned filled made : Instance} (sets : (Instance.new m.entity draw).setAll pairs = .ok assigned)
      (fills : (assigned.routedTo m.databaseName).filledIn now = .ok filled)
      (converts : Mapper.parameters filled m.entity.model.insertPositions = .ok bound)
      (reads : Mapper.readBack filled cells m.entity.model.returningPositions = (.ok (), made)) :
    Makes m now draw pairs bound cells (made.storedIn m.databaseName)

/-- **A row that is created is inserted by one call**, and the mapper is found again, whatever comes of it. -/
theorem says_create (some : m.entity.model.fields ≠ []) (provides : r.Provides m.entity m.databaseName on)
    {result : Outcome Instance} (said : (m.create active now draw pairs r).Says t (result, r')) :
    r'.Provides m.entity m.databaseName on ∧ ∀ i, result = .ok i → ∃ bound cells,
      m.entity.model.Inserts on (on.pinned active) bound cells t ∧ m.Makes now draw pairs bound cells i := by
  cases sets : (Instance.new m.entity draw).setAll pairs with
  | error err =>
    have refused : m.create active now draw pairs r = pure (.error err, r) := by
      rw [create, Instance.ofPairs, sets]
      rfl
    rw [refused] at said
    obtain ⟨_, same⟩ := Dialogue.says_pure.mp said
    cases same
    refine ⟨provides, fun i made => ?_⟩
    cases made
  | ok assigned =>
    cases complete : assigned.checkRequired with
    | error err =>
      rw [create_of_missing sets complete] at said
      obtain ⟨_, same⟩ := Dialogue.says_pure.mp said
      cases same
      refine ⟨provides, fun i made => ?_⟩
      cases made
    | ok _ =>
      obtain ⟨mapper, r₁, number, used, found, kept, keeps⟩ := provides
      have variant := (Instance.isVariant_setAll sets).eq_withValues
      have nonempty : assigned.values ≠ [] := by
        rw [← List.length_pos_iff, Instance.length_setAll sets, Instance.new, List.length_mapIdx, List.length_pos_iff]
        exact some
      have entity : (assigned.routedTo m.databaseName).entity = m.entity := by
        rw [variant]
        rfl
      have saves := Instance.save_of_mapper (i := assigned.routedTo m.databaseName) (r := r) active now
        (by rw [variant]; rfl) (by rw [variant]; rfl) nonempty (entity.symm ▸ found)
      rw [create_of_complete sets complete] at said
      obtain ⟨⟨⟨answer, j⟩, r₂⟩, saved, same⟩ := Dialogue.says_bind_pure.mp said
      cases same
      rw [saves] at saved
      obtain ⟨⟨⟨answer', k⟩, mapper'⟩, inserted, same⟩ := Dialogue.says_bind_pure.mp saved
      cases same
      have keeps' := Always.of_says (Instance.always_keeps_insertRow keeps active now _) inserted
      refine ⟨Registry.provides_keep kept (keeps.number.trans keeps'.number.symm) keeps', fun i made => ?_⟩
      obtain ⟨⟨⟩, rfl, rfl⟩ := Outcome.map_ok.mp made
      obtain ⟨filled, bound, cells, made, fills, converts, inserts, reads, rfl⟩ := Instance.inserts_of_says keeps inserted
      exact ⟨bound, cells, inserts, .stored sets fills converts reads⟩

end Manager

/-! ## What is in the row -/

theorem Model.not_mem_positionsWhere {fields : List Field} {q : Field → Bool} {p : Nat} {f : Field}
    (field : fields[p]? = some f) (off : q f = false) : p ∉ positionsWhere fields q := by
  intro mem
  obtain ⟨g, hg, on⟩ := mem_positionsWhere.mp mem
  obtain rfl := Option.some.inj (hg.symm.trans field)
  rw [off] at on
  cases on

theorem Instance.IsOf.variant {i j : Instance} {e : Entity} (h : i.IsOf e) (variant : i.IsVariant j)
    (length : j.values.length = i.values.length) : j.IsOf e := by
  obtain ⟨values, rfl⟩ := variant
  exact ⟨h.entity, length.trans h.length⟩

theorem Instance.isOf_setAll {e : Entity} {draw : Nat → Nat} {pairs : List (String × Value)} {i : Instance}
    (sets : (new e draw).setAll pairs = .ok i) : i.IsOf e :=
  IsOf.variant ⟨rfl, List.length_mapIdx⟩ (isVariant_setAll sets) (length_setAll sets)

namespace Manager.Makes

variable {m : Manager} {now : Instant} {draw : Nat → Nat} {pairs defaults lookup : List (String × Value)}
  {i : Instance} {bound cells : List Value} {p : Nat} {f : Field}

/-- the stages of an instance that is made: the values set, those filled in, what was bound of them, and what was read from
the cells that came back -/
structure Stages (m : Manager) (now : Instant) (draw : Nat → Nat) (pairs : List (String × Value))
    (bound cells : List Value) (assigned filled i : Instance) : Prop where
  sets : (Instance.new m.entity draw).setAll pairs = .ok assigned
  fills : (assigned.routedTo m.databaseName).filledIn now = .ok filled
  typed : filled.IsOf m.entity
  converts : Mapper.parameters filled m.entity.model.insertPositions = .ok bound
  isOf : i.IsOf m.entity
  kept : ∀ p, p ∉ m.entity.model.returningPositions → i.valueAt p = filled.valueAt p
  read : ∀ (k p : Nat) (f : Field), m.entity.model.returningPositions[k]? = some p →
    m.entity.model.fields[p]? = some f → f.accept (cells.getD k .null) = .ok (i.valueAt p)

theorem exists_stages (h : m.Makes now draw pairs bound cells i) :
    ∃ assigned filled, Stages m now draw pairs bound cells assigned filled i := by
  obtain @⟨assigned, filled, made, sets, fills, converts, reads⟩ := h
  have set := Instance.isOf_setAll sets
  have routed : (assigned.routedTo m.databaseName).IsOf m.entity := ⟨set.entity, set.length⟩
  have typed : filled.IsOf m.entity := routed.variant (Instance.isVariant_filledIn fills) (Instance.length_filledIn fills)
  have variant := filled.isVariant_readBack cells m.entity.model.returningPositions
  have length := filled.length_readBack cells m.entity.model.returningPositions
  rw [reads] at variant length
  have inside : ∀ p ∈ m.entity.model.returningPositions, p < filled.values.length := fun p hp =>
    typed.length.symm ▸ Model.lt_of_mem_positionsWhere hp
  obtain ⟨kept, read⟩ := RowOperation.valueAt_readBack inside (Model.nodup_positionsWhere ..) reads
  have model : filled.model = m.entity.model := congrArg Entity.model typed.entity
  have made := typed.variant variant length
  exact ⟨assigned, filled, sets, fills, typed, converts, ⟨made.entity, made.length⟩, kept,
    fun k p f hk hf => read k p f hk (model ▸ hf)⟩

theorem isOf (h : m.Makes now draw pairs bound cells i) : i.IsOf m.entity := by
  obtain ⟨_, _, stages⟩ := h.exists_stages
  exact stages.isOf

/-- a field that the database makes has what is read from its cell -/
theorem read_at (h : m.Makes now draw pairs bound cells i) {k : Nat}
    (returned : m.entity.model.returningPositions[k]? = some p) (field : m.entity.model.fields[p]? = some f) :
    f.accept (cells.getD k .null) = .ok (i.valueAt p) := by
  obtain ⟨_, _, stages⟩ := h.exists_stages
  exact stages.read k p f returned field

/-- the parameter of a field that is written is what its value is stored as -/
theorem bound_at (h : m.Makes now draw pairs bound cells i) (field : m.entity.model.fields[p]? = some f)
    (written : f.kind.isGenerated = false) : ∃ (k : Nat) (c : Value),
      m.entity.model.insertPositions[k]? = some p ∧ bound[k]? = some c ∧ f.toStorage (i.valueAt p) = .ok c := by
  obtain ⟨_, filled, stages⟩ := h.exists_stages
  have other : p ∉ m.entity.model.returningPositions := Model.not_mem_positionsWhere field written
  have mem : p ∈ m.entity.model.insertPositions := Model.mem_positionsWhere.mpr ⟨f, field, by simp [written]⟩
  obtain ⟨k, position⟩ := List.getElem?_of_mem mem
  have each := Outcome.mapM_ok.mp stages.converts
  obtain ⟨inside, there⟩ := List.getElem?_eq_some_iff.mp position
  have inside' : k < bound.length := each.length_eq ▸ inside
  have converted := (List.forall₂_iff_get.mp each).2 k inside inside'
  simp only [List.get_eq_getElem, there, Mapper.parameter, stages.typed.entity, field] at converted
  refine ⟨k, bound[k], position, List.getElem?_eq_getElem inside', ?_⟩
  rw [stages.kept p other]
  exact converted

/-- **What is stored for a given value is the parameter of its field**, if a save does not fill the field in. -/
theorem bound_of_mem (h : m.Makes now draw (defaults ++ lookup) bound cells i) (clear : Unequivocal lookup)
    {l : String × Value} (hl : l ∈ lookup) (field : m.entity.model.field? l.1 = some f)
    (written : f.kind.isGenerated = false) (plain : f.kind.isAutomatic = false) :
    ∃ (p k : Nat) (c : Value), m.entity.model.fields[p]? = some f ∧ m.entity.model.insertPositions[k]? = some p ∧
      bound[k]? = some c ∧ f.toStorage l.2 = .ok c := by
  obtain ⟨assigned, filled, stages⟩ := h.exists_stages
  have sets := stages.sets
  have set := Instance.isOf_setAll sets
  rw [Instance.setAll_append] at sets
  obtain ⟨begun, first, sets⟩ := Outcome.bind_ok.mp sets
  have start := Instance.isOf_setAll first
  have length : begun.values.length = begun.model.fields.length := by rw [start.length, start.model]
  obtain ⟨p, g, position, there, accepted⟩ := Instance.valueAt_setAll clear length sets l hl
  rw [start.model] at position there
  obtain rfl : g = f := Option.some.inj (there.symm.trans ((Model.field_of_position position).symm.trans field))
  have inside : p < (assigned.routedTo m.databaseName).values.length := set.length.symm ▸ Model.lt_of_position position
  have idle : p ∉ (assigned.routedTo m.databaseName).model.automaticPositions := by
    change p ∉ assigned.model.automaticPositions
    rw [set.model]
    exact Model.not_mem_positionsWhere there plain
  obtain ⟨o, fill, value⟩ := Instance.valueAt_filledIn stages.fills inside
  obtain rfl := Except.ok.inj ((Instance.fillAt_of_not_automatic idle now).symm.trans fill)
  have same : i.valueAt p = assigned.valueAt p :=
    (stages.kept p (Model.not_mem_positionsWhere there written)).trans value
  obtain ⟨k, c, position, bound, stored⟩ := h.bound_at there written
  rw [same, Field.toStorage_eq_of_accept accepted] at stored
  exact ⟨p, k, c, there, position, bound, stored⟩

end Manager.Makes

end Tabula
