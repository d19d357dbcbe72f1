import Tabula.Proofs.Field.Conversion
import Tabula.Proofs.Instance.DirtyColumns
import Tabula.Proofs.Sql.RowLayout
/-!
# The row that a statement is about

An update and a deletion compare the key of the instance.  The key cannot be assigned once the row is stored, except that
a value may be replaced by an equal one, and equal values are stored as equal cells: what is compared is found in the row
that was loaded or inserted.  Only the automatic step changes a key, where a field of the key is a version or a time that
is renewed: `Held.addresses_row`.
-/

namespace Tabula

open Sql (RowStatement RowLayout)

/-! ## Equal values are stored as equal cells -/

/-- a quotient without a rest is not rounded -/
theorem BinaryFormat.nearestEven_mul (q : Nat) {den : Nat} (positive : 0 < den) : nearestEven (q * den) den = q := by
  have rest : ¬den < 2 * 0 ∧ ¬2 * 0 = den := by omega
  unfold nearestEven
  simp only [Nat.mul_mod_left, Nat.mul_div_cancel q positive, rest.1, rest.2, decide_false, Bool.false_and,
    Bool.or_self, Bool.false_eq_true, if_false]

namespace Decimal

variable {a b : Decimal} {places : Nat}

/-- a number that equals one with few places has nothing but zeros behind them -/
theorem exists_mantissa (same : a.same b = true) (few : a.scale ≤ places) (more : places < b.scale) :
    ∃ q, b.mantissa = q * Nat.pow 10 (b.scale - places) ∧
      a.mantissa * Nat.pow 10 places = q * Nat.pow 10 a.scale := by
  have scaled := (same_iff.mp same).1
  have upper : Nat.pow 10 b.scale = Nat.pow 10 (b.scale - places) * Nat.pow 10 places :=
    (Nat.pow_sub_mul_pow 10 (Nat.le_of_lt more)).symm
  have lower : Nat.pow 10 places = Nat.pow 10 (places - a.scale) * Nat.pow 10 a.scale :=
    (Nat.pow_sub_mul_pow 10 few).symm
  refine ⟨a.mantissa * Nat.pow 10 (places - a.scale), ?_, ?_⟩
  · refine Nat.eq_of_mul_eq_mul_right (pow_pos a.scale) ?_
    calc b.mantissa * Nat.pow 10 a.scale
        = a.mantissa * Nat.pow 10 b.scale := scaled.symm
      _ = a.mantissa * (Nat.pow 10 (b.scale - places) * (Nat.pow 10 (places - a.scale) * Nat.pow 10 a.scale)) := by
        rw [upper, lower]
      _ = a.mantissa * Nat.pow 10 (places - a.scale) * Nat.pow 10 (b.scale - places) * Nat.pow 10 a.scale := by
        ac_rfl
  · rw [lower, Nat.mul_assoc]

/-- **Rounding to enough places keeps the number.** -/
theorem same_round (same : a.same b = true) (few : a.scale ≤ places) : a.same (b.round places) = true := by
  unfold round
  split
  · next more =>
    obtain ⟨q, mantissa, scaled⟩ := exists_mantissa same few more
    have whole : BinaryFormat.nearestEven b.mantissa (Nat.pow 10 (b.scale - places)) = q := by
      rw [mantissa, BinaryFormat.nearestEven_mul q (pow_pos _)]
    simp only [whole]
    have fits : q < mantissaBound ∧ places ≤ 28 := by
      refine ⟨Nat.lt_of_le_of_lt ?_ b.mantissa_lt, Nat.le_trans (Nat.le_of_lt more) b.scale_le⟩
      rw [mantissa]
      exact Nat.le_mul_of_pos_right q (pow_pos _)
    rw [ofSigned?, ofParts?, dif_pos fits]
    refine same_iff.mpr ⟨scaled, ?_⟩
    by_cases zero : a.mantissa = 0
    · exact .inr zero
    · have sign := (same_iff.mp same).2.resolve_right zero
      have some : q ≠ 0 := by
        rintro rfl
        rw [Nat.zero_mul] at scaled
        exact zero ((Nat.mul_eq_zero.mp scaled).resolve_right (Nat.ne_of_gt (pow_pos places)))
      exact .inl (by simp [sign, some])
  · exact same

end Decimal

/-- what equals a value of a kind is of that kind, numbers of too many places apart -/
theorem FieldKind.owns_of_same {kind : FieldKind} {v w : Value} (own : kind.owns w = true) (same : w.same v = true)
    (other : ∀ d, w ≠ .decimal d) : kind.owns v = true := by
  cases w with
  | null =>
    cases v with
    | null => exact own
    | _ => cases same
  | decimal d => exact absurd rfl (other d)
  | float _ =>
    cases v with
    | float _ => cases kind <;> exact own
    | _ => cases same
  | json _ =>
    cases v with
    | json _ => cases kind <;> exact own
    | _ => cases same
  | list _ => cases kind <;> cases own
  | _ =>
    cases v <;> first
      | cases same
      | exact eq_of_beq same ▸ own

namespace Field

variable {f : Field} {v w c : Value}

/-- a field makes of what equals one of its own values an equal one -/
theorem accept_of_same (own : f.kind.owns w = true) (same : w.same v = true) :
    ∃ u, f.accept v = .ok u ∧ w.same u = true := by
  cases w with
  | decimal d =>
    cases v with
    | decimal d' =>
      cases kind : f.kind with
      | decimal digits places =>
        rw [kind, FieldKind.owns, decide_eq_true_eq] at own
        refine ⟨.decimal (d'.round places), ?_, ?_⟩
        · simp [accept, kind, Value.isNull, Value.readDecimal?, orRefuse]
        · exact Decimal.same_round same (own ▸ d.scale_round_le places)
      | _ => simp [kind, FieldKind.owns] at own
    | _ => cases same
  | _ =>
    exact ⟨v, accept_of_owns (FieldKind.owns_of_same own same (by simp)), same⟩

theorem cellOf_of_same (same : w.same v = true) (stored : cellOf w = some c) :
    ∃ c₀, cellOf v = some c₀ ∧ c.same c₀ = true := by
  cases w with
  | span s =>
    obtain ⟨n, _, rfl⟩ := Option.map_eq_some_iff.mp stored
    cases v with
    | span s' =>
      obtain rfl := eq_of_beq same
      exact ⟨.int n, stored, beq_self_eq_true n⟩
    | _ => cases same
  | _ =>
    obtain rfl := Option.some.inj stored
    refine ⟨v, ?_, same⟩
    cases v <;> first | rfl | cases same

/-- **What equals one of a field's own values is stored as an equal cell.** -/
theorem toStorage_of_same (own : f.kind.owns w = true) (same : w.same v = true) (stored : f.toStorage w = .ok c) :
    ∃ c₀, f.toStorage v = .ok c₀ ∧ c.same c₀ = true := by
  obtain ⟨w', accepted, cell⟩ := toStorage_ok.mp stored
  obtain rfl := Except.ok.inj ((accept_of_owns own).symm.trans accepted)
  obtain ⟨u, accepted, same⟩ := accept_of_same own same
  obtain ⟨c₀, cell, equal⟩ := cellOf_of_same same cell
  exact ⟨c₀, toStorage_ok.mpr ⟨u, accepted, cell⟩, equal⟩

end Field

/-! ## Keys -/

namespace Instance

variable {models : Nat → Model} {may : Instance → String → Prop} {i filled : Instance} {now : Instant}
  {options : SaveOptions} {p : Nat} {c : Value}

/-- whether what is compared with the key at a position is the stored form of what the row was loaded or inserted with,
or a cell that equals it; a row that still has that cell is found -/
def Identifies (i : Instance) (p : Nat) (c : Value) : Prop :=
  ∃ c₀, i.observed.Binds p c₀ ∧ (c = c₀ ∨ c.same c₀ = true) ∧ (c₀.equals c₀ = .yes → c₀.equals c = .yes)

/-- **The key of a stored instance is the one observed**, or one of the field's own values that equals it. -/
theorem Arises.key_observed (h : i.Arises models may) (stored : i.persisted = true) (key : p ∈ i.model.key) :
    i.observed.valueAt p = i.valueAt p ∨ (i.valueAt p).same (i.observed.valueAt p) = true ∧
      ∃ f, i.model.fields[p]? = some f ∧ f.kind.owns (i.valueAt p) = true := by
  induction h with
  | new number draw => cases stored
  | loaded _ made =>
    obtain ⟨_, _, _, rfl⟩ := ofRow_ok made
    exact .inl (valueAt_observed rfl p)
  | routedTo _ database ih => exact ih stored key
  | @set i j name w h _ sets ih =>
    have before : i.persisted = true := (persisted_set sets).symm.trans stored
    obtain ⟨e, _, books⟩ := h.sound
    obtain ⟨q, f, u, _, hf, accepted, rfl, keeps⟩ := set_ok sets
    rw [observed_withAt (books.stored.trans before)]
    rcases i.valueAt_withAt_cases q p u with kept | ⟨rfl, set⟩
    · rw [kept]
      exact ih before key
    · -- what is set in the key equals what was there
      have same := keeps before key
      rw [set]
      refine .inr ⟨?_, f, hf, Field.owns_of_accept accepted⟩
      rcases ih before key with observed | ⟨equal, _⟩
      · rw [observed]
        exact same
      · exact Value.same_trans _ _ _ same equal
  | inserted _ _ _ database _ => exact .inl (valueAt_observed rfl p)
  | updated _ _ _ _ => exact .inl (valueAt_observed rfl p)
  | forgotten _ _ => cases stored
  | refreshed _ _ _ => exact .inl (valueAt_observed rfl p)

/-- a cell that equals another is found where the other is -/
theorem equals_of_same {c₀ : Value} (same : c.same c₀ = true) (found : c₀.equals c₀ = .yes) :
    c₀.equals c = .yes := by
  obtain ⟨some, _, _⟩ := Value.equals_yes.mp found
  have back := Value.same_symm _ _ same
  refine Value.equals_yes.mpr ⟨some, ?_, back⟩
  cases c with
  | null =>
    cases c₀ with
    | null => exact some
    | _ => cases same
  | _ => rfl

/-- **The stored form of the key identifies the row.** -/
theorem Arises.identifies (h : i.Arises models may) (stored : i.persisted = true) (key : p ∈ i.model.key)
    (binds : i.Binds p c) : i.Identifies p c := by
  obtain ⟨f, hf, cell⟩ := binds
  rcases h.key_observed stored key with observed | ⟨same, g, hg, own⟩
  · exact ⟨c, ⟨f, hf, observed ▸ cell⟩, .inl rfl, id⟩
  · obtain rfl := Option.some.inj (hf.symm.trans hg)
    obtain ⟨c₀, cell₀, equal⟩ := Field.toStorage_of_same own same cell
    exact ⟨c₀, ⟨f, hf, cell₀⟩, .inr equal, equals_of_same equal⟩

/-- what an update compares with the key at a position: the key of the row, unless the automatic step renews it -/
inductive Addresses (i : Instance) (now : Instant) (options : SaveOptions) (p : Nat) (c : Value) : Prop where
  | kept (untouched : options.force = true ∨ i.fillAt now p = .ok none) (identifies : i.Identifies p c)
  | renewed {f : Field} {v : Value} (unforced : options.force = false) (field : i.model.fields[p]? = some f)
    (automatic : f.kind.isAutomatic = true) (fills : i.fillAt now p = .ok (some v)) (stored : f.toStorage v = .ok c)

theorem Arises.addresses (h : i.Arises models may) (stored : i.persisted = true) (key : p ∈ i.model.key)
    (inside : p < i.values.length) (prepares : i.prepared now options = .ok filled) (binds : filled.Binds p c) :
    i.Addresses now options p c := by
  unfold prepared at prepares
  split at prepares
  · next forced =>
    obtain rfl := Except.ok.inj prepares
    exact .kept (.inl forced) (h.identifies stored key binds)
  · next unforced =>
    obtain ⟨o, fills, value⟩ := valueAt_filledIn prepares inside
    obtain ⟨values, rfl⟩ := isVariant_filledIn prepares
    obtain ⟨f, hf, cell⟩ := binds
    rw [value] at cell
    cases o with
    | none => exact .kept (.inr fills) (h.identifies stored key ⟨f, hf, cell⟩)
    | some v =>
      obtain ⟨g, hg, automatic⟩ := Model.mem_positionsWhere.mp (mem_automaticPositions_of_fillAt fills)
      obtain rfl := Option.some.inj (hg.symm.trans hf)
      exact .renewed (Bool.not_eq_true _ ▸ unforced) hf automatic fills cell

/-! ## Deletions -/

/-- **A deletion asks for one statement at most**, with the key of the instance for its parameters. -/
theorem says_delete {r r' : Registry} {active : Active} {t : List (Dialogue.Exchange Call Call.Answer)}
    {result : Outcome Nat × Instance} (typed : r.Typed models) (numbered : i.entity.IsNumbered models)
    (said : (i.delete active r).Says t (result, r')) : t = [] ∨ ∃ (on : Database) (bound : List Value)
      (answer : Outcome Nat), Mapper.parameters i i.model.key = .ok bound ∧
        t = [⟨.execute on (on.pinned active) i.model.deleteRow.text bound, answer⟩] := by
  unfold delete at said
  split at said
  · exact .inl (Dialogue.says_pure.mp said).1
  · obtain ⟨front, ⟨answer, r₁⟩, back, rfl, asked, rest⟩ := Dialogue.says_bind.mp said
    have silent : back = [] := by
      cases answer with
      | ok n => exact (Dialogue.says_pure.mp rest).1
      | error e => exact (Dialogue.says_pure.mp rest).1
    rw [silent, List.append_nil]
    unfold Registry.withMapper at asked
    split at asked
    · exact .inl (Dialogue.says_pure.mp asked).1
    · next m r₂ found =>
      obtain ⟨_, _, on, used, kept⟩ := typed.mapper numbered found
      obtain ⟨⟨answer', m'⟩, asked, same⟩ := Dialogue.says_bind_pure.mp asked
      rcases Mapper.says_delete kept asked with ⟨silent, _⟩ | ⟨bound, stored, rfl⟩
      · exact .inl silent
      · exact .inr ⟨on, bound, answer', stored, rfl⟩

/-- a deletion compares the key -/
theorem ofText_deleteRow (m : Model) : RowLayout.ofText? m.deleteRow.text = some ⟨m.numbered 1 m.key, []⟩ := by
  rw [Model.deleteRow, Model.rowsEqual_eq, RowLayout.ofText_delete]

end Instance

/-- **Row statements address the row of the instance, unless a save renews its key.**  Whatever a program does to its
instances, of any models that can be built, with any registry and any answers of the databases: an update that a save of
a stored instance sends compares each field of the key with the stored form of what the row was loaded or inserted with,
or a cell that equals it, except where the save is not forced and the automatic step gives an automatic field of the key
a new value, which then is what is compared.  A deletion always compares the key of the row. -/
theorem Held.addresses_row {models : Nat → Model} (built : ∀ number, ∃ d : Draft, d.build = .ok (models number))
    {r : Registry} {held : List Instance} (h : Held models r held) {i : Instance} (hi : i ∈ held)
    (stored : i.persisted = true) (active : Active) :
    (∀ now options t result r', (i.saveWith active now options r).Says t (result, r') → ∀ x ∈ t,
      ∃ (on : Database) (text : String) (fields : List Nat) (written key compared : List Value),
        x.question = .execute on (on.pinned active) text (written ++ key ++ compared) ∧
        written.length = fields.length ∧
        (i.model.isAbstract = false → RowStatement.ofText? text = some (.change i.model.table
          (i.model.numbered 1 fields)
          (i.model.numbered (fields.length + 1) (i.model.key ++ i.comparedPositions options)))) ∧
        List.Forall₂ (i.Addresses now options) i.model.key key) ∧
    ∀ t result r', (i.delete active r).Says t (result, r') → ∀ x ∈ t, ∃ (on : Database) (key : List Value),
      x.question = .execute on (on.pinned active) i.model.deleteRow.text key ∧
      RowLayout.ofText? i.model.deleteRow.text = some ⟨i.model.numbered 1 i.model.key, []⟩ ∧
      List.Forall₂ i.Identifies i.model.key key := by
  obtain ⟨typed, arises⟩ := h.tended.arises
  have arose := arises i hi
  have sound := arose.numbered.sound built
  obtain ⟨e, _, books⟩ := arose.sound
  have length : i.values.length = i.model.fields.length := books.toIsOf.model ▸ books.length
  refine ⟨fun now options t result r' said x hx => ?_, fun t result r' said x hx => ?_⟩
  · rcases Instance.says_saveWith typed arose.numbered stored said with ⟨rfl, _⟩ | ⟨y, m, r₁, rfl, dirty, _, asks⟩
    · exact absurd hx List.not_mem_nil
    · obtain rfl := List.mem_singleton.mp hx
      obtain ⟨filled, fields, text, parameters, prepares, question, writes⟩ :=
        asks.writesDirty books sound stored dirty
      obtain ⟨written, key, compared, rfl, sets, keys, _⟩ := writes.binds
      refine ⟨m.database, text, fields, written, key, compared, question, sets.length_eq.symm, writes.reads, ?_⟩
      have each := (List.forall₂_and_left (p := fun p => p ∈ i.model.key) _ _).mpr ⟨fun _ hp => hp, keys⟩
      exact each.imp fun p c ⟨mem, binds⟩ =>
        arose.addresses stored mem (length ▸ sound.key_lt p mem) prepares binds
  · rcases Instance.says_delete typed arose.numbered said with rfl | ⟨on, bound, answer, parameters, rfl⟩
    · exact absurd hx List.not_mem_nil
    · obtain rfl := List.mem_singleton.mp hx
      refine ⟨on, bound, rfl, Instance.ofText_deleteRow i.model, ?_⟩
      have keys := Instance.binds_of_parameters sound.key_lt parameters
      have each := (List.forall₂_and_left (p := fun p => p ∈ i.model.key) _ _).mpr ⟨fun _ hp => hp, keys⟩
      exact each.imp fun p c ⟨mem, binds⟩ => arose.identifies stored mem binds

theorem Held.addresses_row_hitCounter : ∃ held t result r',
    Held (fun _ => Instance.counters) counterRegistry held ∧ hitCounter ∈ held ∧
    (hitCounter.saveWith [] ⟨0, 0⟩ {} counterRegistry).Says t (result, r') ∧
    t.map (fun x => x.question) = [.execute ⟨defaultDatabase, 0⟩ none
      "UPDATE \"counter\" SET \"hits\" = $1, \"rev\" = $2 WHERE \"id\" = $3 AND \"rev\" = $4"
      [.int 6, .int 2, .int 1, .int 1]] ∧
    ∀ x ∈ t, ∃ (on : Database) (text : String) (written compared : List Value) (c : Value),
      x.question = .execute on none text (written ++ [c] ++ compared) ∧ hitCounter.Identifies 0 c := by
  have held := Held.of_tended (tended_hitCounter (fun _ _ => True) trivial)
  have said := Dialogue.says_run Instance.withoutRows () (hitCounter.saveWith [] ⟨0, 0⟩ {} counterRegistry)
  have addresses := (held.addresses_row built_counters List.mem_cons_self rfl []).1 _ _ _ _ _ said
  refine ⟨_, _, _, _, held, List.mem_cons_self, said, rfl, fun x hx => ?_⟩
  obtain ⟨on, text, fields, written, key, compared, question, _, _, each⟩ := addresses x hx
  cases each with
  | @cons _ c _ _ address rest =>
    cases rest
    refine ⟨on, text, written, compared, c, question, ?_⟩
    cases address with
    | kept _ identifies => exact identifies
    | renewed _ field automatic =>
      -- the number of a counter is not filled in
      cases field
      cases automatic

/-- pages that are known by their version -/
def pageDraft : Draft where
  name := "Page"
  table := some "page"
  fields := [(Field.new "rev" .version).asKey, Field.new "size" .int]

def pages : Model where
  name := "Page"
  table := "page"
  database := defaultDatabase
  isAbstract := false
  description := none
  uniqueTogether := []
  indexes := []
  fields := [(Field.new "rev" .version).asKey, Field.new "size" .int]
  key := [0]

/-- the page as it is loaded -/
def loadedPage : Instance :=
  ({ entity := ⟨0, pages⟩, values := [.int 3, .int 5], persisted := true, database := some defaultDatabase } :
    Instance).synchronized

/-- **A save may look for a row that does not exist**: the key of a page is its version, and the page that was loaded with
3 is looked for with 4 and with 3 at once. -/
theorem Held.misses_row_after_renewal : ∃ held r t result r', pageDraft.build = .ok pages ∧
    Held (fun _ => pages) r held ∧ (loadedPage.assigned "size" (.int 6)).2 ∈ held ∧
    ((loadedPage.assigned "size" (.int 6)).2.saveWith [] ⟨0, 0⟩ {} r).Says t (result, r') ∧
    t.map (fun x => x.question) = [.execute ⟨defaultDatabase, 0⟩ none
      "UPDATE \"page\" SET \"rev\" = $1, \"size\" = $2 WHERE \"rev\" = $3 AND \"rev\" = $4"
      [.int 4, .int 6, .int 4, .int 3]] ∧
    ¬(loadedPage.assigned "size" (.int 6)).2.Identifies 0 (.int 4) := by
  have assigned := held_assigned (fun _ => pages) ⟨["rev", "size"], [.int 3, .int 5]⟩
    (.load { entity := ⟨0, pages⟩ } (.int 3)) loadedPage rfl rfl "size" (.int 6)
  refine ⟨_, _, _, _, _, rfl, assigned, List.mem_cons_self, Dialogue.says_run Instance.withoutRows () _, rfl, ?_⟩
  -- the row has 3 for its key
  rintro ⟨c₀, ⟨f, field, cell⟩, equal, _⟩
  cases field
  cases cell
  rcases equal with same | same <;> cases same

end Tabula
