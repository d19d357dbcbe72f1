import Tabula.Instance.Store
import Tabula.Proofs.Database.StoredRow
import Tabula.Proofs.Field.Storage
/-!
# Copies of a row

An instance in memory is a copy of a stored row if it has the key of the row, values that can be written back, and a
version that it has observed.  Loading makes copies; refreshing, setting fields other than the key and the version,
and filling in automatic values keep them.
-/

namespace Tabula

/-! ## Models with a version -/

/-- a sound model with a version counter, whose key is neither floating-point nor filled in by saves -/
structure Model.Versioned (m : Model) (version : Nat) : Prop extends m.Sound where
  hasKey : m.key ≠ []
  counter : m.versionPosition? = some version
  comparable : ∀ f ∈ m.keyFields, f.kind ≠ .float
  steady : ∀ f ∈ m.keyFields, f.kind.isAutomatic = false

namespace Model.Versioned

variable {m : Model} {version : Nat}

theorem field (h : m.Versioned version) : ∃ f, m.fields[version]? = some f ∧ f.kind = .version :=
  (versionPosition_iff h.toSound).mp h.counter

/-- there is no other version counter -/
theorem eq_of_kind (h : m.Versioned version) {p : Nat} {f : Field} (hf : m.fields[p]? = some f)
    (hk : f.kind = .version) : p = version := by
  have found := (versionPosition_iff h.toSound).mpr ⟨f, hf, hk⟩
  rw [h.counter] at found
  exact (Option.some.inj found).symm

theorem lt_length (h : m.Versioned version) : version < m.fields.length := by
  obtain ⟨f, hf, _⟩ := h.field
  exact (List.getElem?_eq_some_iff.mp hf).1

theorem mem_automatic (h : m.Versioned version) : version ∈ m.automaticPositions := by
  obtain ⟨f, hf, kind⟩ := h.field
  exact mem_positionsWhere.mpr ⟨f, hf, by rw [kind]; rfl⟩

end Model.Versioned

/-! ## Rows -/

/-- whether a row is one that copies can be made of: its columns hold their cells, its key can be found again, and it
has a version -/
structure StoredRow.Keeps (row : StoredRow) (m : Model) (version : Nat) (n : Int64) : Prop extends row.IsOf m where
  holds : ∀ (p : Nat) (f : Field) (c : Value), m.fields[p]? = some f → row.cells[p]? = some c → f.kind.holds c = true
  findable : ∀ p ∈ m.key, ∀ c : Value, row.cells[p]? = some c → c.equals c = .yes
  counter : row.cells[version]? = some (.int n)

/-- whether values are those of a copy of a row, at some version -/
structure Model.Copies (m : Model) (row : StoredRow) (version : Nat) (n : Int64) (values : List Value) : Prop where
  length : values.length = m.fields.length
  storable : ∀ (p : Nat) (f : Field) (v : Value), m.fields[p]? = some f → values[p]? = some v →
    ∃ c, f.toStorage v = .ok c
  key : ∀ p ∈ m.key, ∀ (f : Field) (v : Value), m.fields[p]? = some f → values[p]? = some v →
    ∃ c, row.cells[p]? = some c ∧ f.toStorage v = .ok c
  counter : values[version]? = some (.int n)

/-- whether a stored instance is a copy of a row and has observed some version of it -/
structure Instance.IsCopy (i : Instance) (e : Entity) (row : StoredRow) (version : Nat) (n : Int64) : Prop where
  entity : i.entity = e
  persisted : i.persisted = true
  database : i.databaseName = row.database.name
  values : e.model.Copies row version n i.values
  observed : ∃ old, i.snapshot = some old ∧ old[version]? = some (.int n)

/-- whether a field is neither of the key nor the version, and its column can hold a value -/
def Model.MaySet (m : Model) (version : Nat) (name : String) (v : Value) : Prop :=
  ∀ (p : Nat) (f : Field), m.position name = .ok p → m.fields[p]? = some f →
    p ∉ m.key ∧ p ≠ version ∧ ∃ c, f.toStorage v = .ok c

variable {m : Model} {e : Entity} {row row' : StoredRow} {version : Nat} {n k : Int64} {values : List Value}
  {i j : Instance}

/-- copies remain copies as long as the key of the row stays -/
theorem Model.Copies.of_key (h : m.Copies row version n values) (same : ∀ p ∈ m.key, row'.cells[p]? = row.cells[p]?) :
    m.Copies row' version n values := by
  refine ⟨h.length, h.storable, fun p hp f v hf hv => ?_, h.counter⟩
  rw [same p hp]
  exact h.key p hp f v hf hv

/-- outside the key and the version, a value that can be stored may take the place of another -/
theorem Model.Copies.set (h : m.Copies row version n values) {p : Nat} {w c : Value} {f : Field}
    (hf : m.fields[p]? = some f) (hk : p ∉ m.key) (hv : p ≠ version) (hw : f.toStorage w = .ok c) :
    m.Copies row version n (values.set p w) := by
  refine ⟨by rw [List.length_set, h.length], fun q g v hg hq => ?_, fun q hq g v hg hv => ?_, ?_⟩
  · by_cases hpq : p = q
    · subst hpq
      rw [hf] at hg
      injection hg with hg
      rw [List.getElem?_set_self'] at hq
      obtain ⟨_, _, rfl⟩ := Option.map_eq_some_iff.mp hq
      exact ⟨c, hg ▸ hw⟩
    · rw [List.getElem?_set_ne hpq] at hq
      exact h.storable q g v hg hq
  · have other : p ≠ q := fun same => hk (same ▸ hq)
    rw [List.getElem?_set_ne other] at hv
    exact h.key q hq g v hg hv
  · rw [List.getElem?_set_ne hv]
    exact h.counter

/-- outside the key, values that can be stored may take the place of others, with another version among them -/
theorem Model.Copies.assigned (h : m.Copies row version n values) {pairs : List (Nat × Value)}
    (storable : ∀ p v, (p, v) ∈ pairs → ∀ f, m.fields[p]? = some f → ∃ c, f.toStorage v = .ok c)
    (steady : ∀ p v, (p, v) ∈ pairs → p ∉ m.key) (inside : version < m.fields.length)
    (counted : ∀ v, (version, v) ∈ pairs ↔ v = .int k) : m.Copies row version k (Tabula.assign values pairs) := by
  refine ⟨(length_assign ..).trans h.length, fun p f v hf hv => ?_, fun p hk f v hf hv => ?_, ?_⟩
  · rcases assign_cases hv with set | ⟨kept, _⟩
    · exact storable p v set f hf
    · exact h.storable p f v hf kept
  · rcases assign_cases hv with set | ⟨kept, _⟩
    · exact absurd hk (steady p v set)
    · exact h.key p hk f v hf kept
  · have there : version < (Tabula.assign values pairs).length := by
      rw [length_assign, h.length]
      exact inside
    have at_version := List.getElem?_eq_getElem there
    rcases assign_cases at_version with set | ⟨_, absent⟩
    · rw [at_version, (counted _).mp set]
    · exact absurd (List.mem_map_of_mem ((counted _).mpr rfl)) absent

theorem Instance.IsCopy.of_key (h : i.IsCopy e row version n) (database : row'.database = row.database)
    (same : ∀ p ∈ e.model.key, row'.cells[p]? = row.cells[p]?) : i.IsCopy e row' version n :=
  ⟨h.entity, h.persisted, database ▸ h.database, h.values.of_key same, h.observed⟩

/-! ## Loading -/

namespace Instance

/-- what stands at a position of an accepted row is what the field there makes of its cell -/
theorem accepted_at {fields : List Field} {cells : List Value} (length : cells.length = fields.length)
    (accepted : (fields.zip cells).mapM (fun c => c.1.accept c.2) = .ok values) {p : Nat} {f : Field} {v : Value}
    (hf : fields[p]? = some f) (hv : values[p]? = some v) : ∃ c, cells[p]? = some c ∧ f.accept c = .ok v := by
  obtain ⟨lf, hf⟩ := List.getElem?_eq_some_iff.mp hf
  obtain ⟨lv, hv⟩ := List.getElem?_eq_some_iff.mp hv
  have lc : p < cells.length := length ▸ lf
  have lz : p < (fields.zip cells).length := by
    rw [List.length_zip]
    omega
  have read := (List.forall₂_iff_get.mp (Outcome.mapM_ok.mp accepted)).2 p lz lv
  simp only [List.get_eq_getElem, List.getElem_zip, hf, hv] at read
  exact ⟨_, List.getElem?_eq_getElem lc, read⟩

/-- **A fetched row makes a copy at its version.** -/
theorem isCopy_ofRow (hm : e.model.Versioned version) (hr : row.Keeps e.model version n)
    (h : ofRow e row.database.name row.cells = .ok i) : i.IsCopy e row version n := by
  unfold ofRow at h
  simp only [hr.length, ne_eq, not_true_eq_false, if_false] at h
  obtain ⟨values, accepted, h⟩ := Outcome.bind_ok.mp h
  obtain rfl := Outcome.pure_ok.mp h
  have length : values.length = e.model.fields.length := by
    rw [← (Outcome.mapM_ok.mp accepted).length_eq, List.length_zip, hr.length, Nat.min_self]
  have stored : ∀ (p : Nat) (f : Field) (v : Value), e.model.fields[p]? = some f → values[p]? = some v →
      ∃ c, row.cells[p]? = some c ∧ f.toStorage v = .ok c := by
    intro p f v hf hv
    obtain ⟨c, hc, read⟩ := accepted_at hr.length accepted hf hv
    obtain ⟨w, hw, hs⟩ := Field.accept_of_holds (hr.holds p f c hf hc)
    rw [read] at hw
    injection hw with hw
    exact ⟨c, hc, hw ▸ hs⟩
  have counter : values[version]? = some (.int n) := by
    obtain ⟨f, hf, kind⟩ := hm.field
    have there := List.getElem?_eq_getElem (length ▸ hm.lt_length : version < values.length)
    obtain ⟨c, hc, read⟩ := accepted_at hr.length accepted hf there
    rw [hr.counter] at hc
    injection hc with hc
    have same : f.accept (.int n) = .ok (.int n) := Field.accept_of_owns (by rw [kind]; rfl)
    rw [← hc, same] at read
    injection read with read
    rw [there, ← read]
  refine ⟨rfl, rfl, rfl, ⟨length, fun p f v hf hv => ?_, fun p _ f v hf hv => stored p f v hf hv, counter⟩, values,
    rfl, counter⟩
  obtain ⟨c, _, hs⟩ := stored p f v hf hv
  exact ⟨c, hs⟩

/-- a refreshed copy is a copy at the version of the row -/
theorem IsCopy.refreshedFrom (h : i.IsCopy e row version k) (hj : j.IsCopy e row version n) :
    (i.refreshedFrom j).IsCopy e row version n :=
  ⟨h.entity, rfl, h.database, hj.values, j.values, rfl, hj.values.counter⟩

/-! ## Setting fields -/

theorem IsCopy.set (h : i.IsCopy e row version n) {name : String} {v : Value} (may : e.model.MaySet version name v)
    (hs : i.set name v = .ok j) : j.IsCopy e row version n := by
  have model : i.model = e.model := congrArg Entity.model h.entity
  unfold Instance.set at hs
  rw [model] at hs
  obtain ⟨p, hp, hs⟩ := Outcome.bind_ok.mp hs
  split at hs
  · simp [failure] at hs
  · next f hf =>
    obtain ⟨w, hw, hs⟩ := Outcome.bind_ok.mp hs
    cases refused : refusesNull f w with
    | true =>
      simp only [refused, if_true] at hs
      obtain ⟨_, thrown, _⟩ := Outcome.bind_ok.mp hs
      cases thrown
    | false =>
      simp only [refused, Bool.false_eq_true, if_false] at hs
      split at hs
      · simp [failure] at hs
      · obtain rfl := Outcome.pure_ok.mp hs
        obtain ⟨hk, hv, c, hc⟩ := may p f hp hf
        have values := h.values.set hf hk hv (Field.toStorage_of_accept hw hc)
        exact ⟨h.entity, h.persisted, h.database, values, h.observed⟩

end Instance

/-! ## Filling in -/

namespace Field

variable {f : Field}

/-- the refusal to count past the last version -/
def exhausted (f : Field) : Error := ⟨.fieldValue, f.name ++ " cannot be incremented past 9223372036854775807"⟩

theorem nextVersion_int (f : Field) (n : Int64) :
    f.nextVersion (.int n) = if n < Int64.maxValue then .ok (.int (n + 1)) else .error f.exhausted := by
  have next : Int64.ofInt (n.toInt + 1) = n + 1 := by
    rw [Int64.ofInt_add, Int64.ofInt_toInt]
    rfl
  have last : (Nat.pow 2 63 : Int) - 1 = Int64.maxValue.toInt := by decide
  unfold nextVersion
  simp only [Value.asInt, Option.getD_some, next, last, Int64.lt_iff_toInt_lt]
  rfl

/-- a field other than a version counter is filled in without fail, and with what can be stored -/
theorem automatic_of_ne (h : f.kind ≠ .version) (now : Instant) (current : Value) (persisted : Bool) :
    ∃ o, f.automatic now current persisted = .ok o ∧ ∀ v, o = some v → ∃ c, f.toStorage v = .ok c := by
  have stored : ∀ onSave onCreate, f.kind = .instant onSave onCreate → ∃ c, f.toStorage (.instant now) = .ok c :=
    fun onSave onCreate kind => ⟨_, toStorage_of_owns (by rw [kind]; rfl) rfl⟩
  unfold automatic
  split
  · next kind => exact absurd kind h
  · next onCreate kind =>
    refine ⟨_, rfl, fun v hv => ?_⟩
    injection hv with hv
    exact hv ▸ stored _ _ kind
  · next kind =>
    refine ⟨_, rfl, fun v hv => ?_⟩
    split at hv
    · injection hv with hv
      exact hv ▸ stored _ _ kind
    · simp at hv
  · exact ⟨none, rfl, by simp⟩

end Field

namespace Instance

/-- what is filled in at a position -/
def fillAt (i : Instance) (now : Instant) (p : Nat) : Outcome (Option Value) :=
  match i.model.fields[p]? with
  | some f => f.automatic now (i.valueAt p) i.persisted
  | none => .ok none

variable {now : Instant} {ps : List Nat}

theorem automaticValues_cons (p : Nat) : i.automaticValues now (p :: ps) = (do
    let filled ← i.fillAt now p
    let others ← i.automaticValues now ps
    return (filled.map (p, ·)).toList ++ others) := by
  rw [automaticValues, fillAt]
  cases i.model.fields[p]? <;> rfl

/-- values are filled in where a position has one -/
theorem automaticValues_ok (h : ∀ p ∈ ps, ∃ o, i.fillAt now p = .ok o) :
    ∃ filled, i.automaticValues now ps = .ok filled ∧
      ∀ p v, (p, v) ∈ filled ↔ p ∈ ps ∧ i.fillAt now p = .ok (some v) := by
  induction ps with
  | nil => exact ⟨[], rfl, by simp⟩
  | cons q ps ih =>
    obtain ⟨o, ho⟩ := h q List.mem_cons_self
    obtain ⟨others, hothers, mem⟩ := ih fun p hp => h p (List.mem_cons_of_mem _ hp)
    refine ⟨(o.map (q, ·)).toList ++ others, ?_, fun p v => ?_⟩
    · rw [automaticValues_cons, ho, hothers]
      rfl
    · rw [List.mem_append, mem, List.mem_cons]
      constructor
      · rintro (hp | ⟨hp, hv⟩)
        · obtain ⟨w, rfl, hw⟩ := Option.map_eq_some_iff.mp (Option.mem_toList.mp hp)
          injection hw with hq hv
          exact ⟨.inl hq.symm, hq ▸ hv ▸ ho⟩
        · exact ⟨.inr hp, hv⟩
      · rintro ⟨rfl | hp, hv⟩
        · rw [ho] at hv
          injection hv with hv
          exact .inl (by simp [hv])
        · exact .inr ⟨hp, hv⟩

/-- if one position cannot be filled in, nothing is -/
theorem automaticValues_error {q : Nat} {err : Error} (hq : q ∈ ps) (he : i.fillAt now q = .error err)
    (others : ∀ p ∈ ps, p ≠ q → ∃ o, i.fillAt now p = .ok o) : i.automaticValues now ps = .error err := by
  induction ps with
  | nil => simp at hq
  | cons p ps ih =>
    rw [automaticValues_cons]
    by_cases hp : p = q
    · rw [hp, he]
      rfl
    · obtain ⟨o, ho⟩ := others p List.mem_cons_self hp
      have rest := ih ((List.mem_cons.mp hq).resolve_left (Ne.symm hp)) fun r hr => others r (List.mem_cons_of_mem _ hr)
      rw [ho, rest]
      rfl

theorem foldl_withAt (i : Instance) (filled : List (Nat × Value)) :
    filled.foldl (fun i v => i.withAt v.1 v.2) i = i.withValues (assign i.values filled) := by
  induction filled generalizing i with
  | nil => rfl
  | cons v rest ih => exact ih _

theorem valueAt_of_getElem {p : Nat} {v : Value} (h : i.values[p]? = some v) : i.valueAt p = v := by
  rw [valueAt, List.getD_eq_getElem?_getD, h, Option.getD_some]

/-- what has been filled in could be filled in everywhere -/
theorem exists_fillAt_of_automaticValues {filled : List (Nat × Value)} (h : i.automaticValues now ps = .ok filled) :
    ∀ p ∈ ps, ∃ o, i.fillAt now p = .ok o := by
  induction ps generalizing filled with
  | nil => exact nofun
  | cons q ps ih =>
    rw [automaticValues_cons] at h
    obtain ⟨o, ho, h⟩ := Outcome.bind_ok.mp h
    obtain ⟨others, hothers, _⟩ := Outcome.bind_ok.mp h
    exact List.forall_mem_cons.mpr ⟨⟨o, ho⟩, ih hothers⟩

theorem fillAt_of_not_automatic {p : Nat} (h : p ∉ i.model.automaticPositions) (now : Instant) :
    i.fillAt now p = .ok none := by
  unfold fillAt
  split
  · next f hf =>
    have kind : f.kind.isAutomatic = false := by
      rw [← Bool.not_eq_true]
      exact fun automatic => h (Model.mem_positionsWhere.mpr ⟨f, hf, automatic⟩)
    unfold Field.automatic
    split <;> simp_all [FieldKind.isAutomatic]
  · rfl

/-- what is filled in is automatic -/
theorem mem_automaticPositions_of_fillAt {p : Nat} {v : Value} (h : i.fillAt now p = .ok (some v)) :
    p ∈ i.model.automaticPositions := by
  refine Decidable.byContradiction fun other => ?_
  rw [fillAt_of_not_automatic other] at h
  cases h

/-- **A save fills in what its fields say and leaves everything else.** -/
theorem valueAt_filledIn {filled : Instance} (h : i.filledIn now = .ok filled) {p : Nat} (inside : p < i.values.length) :
    ∃ o, i.fillAt now p = .ok o ∧ filled.valueAt p = o.getD (i.valueAt p) := by
  obtain ⟨pairs, hpairs, h⟩ := Outcome.bind_ok.mp h
  obtain rfl := Outcome.pure_ok.mp h
  have each := exists_fillAt_of_automaticValues hpairs
  obtain ⟨_, again, mem⟩ := automaticValues_ok each
  obtain rfl := Except.ok.inj (hpairs.symm.trans again)
  have fills : ∃ o, i.fillAt now p = .ok o := by
    by_cases automatic : p ∈ i.model.automaticPositions
    · exact each p automatic
    · exact ⟨none, fillAt_of_not_automatic automatic now⟩
  obtain ⟨o, ho⟩ := fills
  refine ⟨o, ho, ?_⟩
  rw [foldl_withAt]
  have there : p < (assign i.values pairs).length := by rwa [length_assign]
  have value := List.getElem?_eq_getElem there
  rw [valueAt_of_getElem (i := i.withValues (assign i.values pairs)) value]
  rcases assign_cases value with set | ⟨kept, absent⟩
  · have given := ((mem p _).mp set).2
    rw [ho] at given
    rw [Except.ok.inj given, Option.getD_some]
  · cases o with
    | none => exact (valueAt_of_getElem kept).symm
    | some w =>
      -- what is filled in is among the pairs
      have automatic := mem_automaticPositions_of_fillAt ho
      exact absurd (List.mem_map_of_mem ((mem p w).mpr ⟨automatic, ho⟩)) absent

namespace IsCopy

theorem model (h : i.IsCopy e row version n) : i.model = e.model := congrArg Entity.model h.entity

theorem fillAt_version (h : i.IsCopy e row version n) {f : Field} (hf : e.model.fields[version]? = some f)
    (kind : f.kind = .version) (now : Instant) : i.fillAt now version =
      if n < Int64.maxValue then .ok (some (.int (n + 1))) else .error f.exhausted := by
  rw [fillAt, h.model, hf]
  simp only [Field.automatic, kind, valueAt_of_getElem h.values.counter, Field.nextVersion_int]
  split <;> rfl

theorem fillAt_other (h : i.IsCopy e row version n) (hm : e.model.Versioned version) {p : Nat} (hp : p ≠ version)
    (now : Instant) : ∃ o, i.fillAt now p = .ok o ∧
      ∀ v f, o = some v → e.model.fields[p]? = some f → ∃ c, f.toStorage v = .ok c := by
  rw [fillAt, h.model]
  cases hf : e.model.fields[p]? with
  | none => exact ⟨none, rfl, by simp⟩
  | some f =>
    have kind : f.kind ≠ .version := fun kind => hp (hm.eq_of_kind hf kind)
    obtain ⟨o, ho, stored⟩ := Field.automatic_of_ne kind now (i.valueAt p) i.persisted
    refine ⟨o, ho, fun v g hv hg => ?_⟩
    injection hg with hg
    exact hg ▸ stored v hv

/-- what is filled in can be stored -/
theorem storable_of_fillAt (h : i.IsCopy e row version n) (hm : e.model.Versioned version)
    (lt : n < Int64.maxValue) {now : Instant} {p : Nat} {v : Value} (hv : i.fillAt now p = .ok (some v)) {f : Field}
    (hf : e.model.fields[p]? = some f) : ∃ c, f.toStorage v = .ok c := by
  by_cases hp : p = version
  · subst hp
    obtain ⟨g, hg, kind⟩ := hm.field
    have next := h.fillAt_version hg kind now
    rw [if_pos lt, hv] at next
    injection next with next
    injection next with next
    rw [hf] at hg
    injection hg with hg
    subst next hg
    exact ⟨_, Field.toStorage_counter kind _⟩
  · obtain ⟨o, ho, stored⟩ := h.fillAt_other hm hp now
    rw [hv] at ho
    injection ho with ho
    exact stored v f ho.symm hf

/-- **A save counts the version up by one** and fills in what can be stored, unless the counter is exhausted. -/
theorem filledIn_ok (h : i.IsCopy e row version n) (hm : e.model.Versioned version) (lt : n < Int64.maxValue)
    (now : Instant) :
    ∃ values, i.filledIn now = .ok (i.withValues values) ∧ e.model.Copies row version (n + 1) values := by
  obtain ⟨f, hf, kind⟩ := hm.field
  have next := h.fillAt_version hf kind now
  rw [if_pos lt] at next
  have each : ∀ p ∈ e.model.automaticPositions, ∃ o, i.fillAt now p = .ok o := by
    intro p _
    by_cases hp : p = version
    · exact ⟨_, hp ▸ next⟩
    · obtain ⟨o, ho, _⟩ := h.fillAt_other hm hp now
      exact ⟨o, ho⟩
  obtain ⟨filled, hfilled, mem⟩ := automaticValues_ok each
  have steady : ∀ p v, (p, v) ∈ filled → p ∉ e.model.key := by
    intro p v hv hk
    obtain ⟨g, hg, automatic⟩ := Model.mem_positionsWhere.mp ((mem p v).mp hv).1
    rw [hm.steady g (Model.mem_keyFields hk hg)] at automatic
    cases automatic
  have counted : ∀ v, (version, v) ∈ filled ↔ v = .int (n + 1) := by
    intro v
    rw [mem, next]
    simp [hm.mem_automatic, eq_comm]
  refine ⟨assign i.values filled, ?_, h.values.assigned ?_ steady hm.lt_length counted⟩
  · rw [filledIn, h.model, hfilled, ← foldl_withAt]
    rfl
  · intro p v hv f hf
    exact h.storable_of_fillAt hm lt ((mem p v).mp hv).2 hf

theorem filledIn_error (h : i.IsCopy e row version n) (hm : e.model.Versioned version) {f : Field}
    (hf : e.model.fields[version]? = some f) (ge : ¬n < Int64.maxValue) (now : Instant) :
    i.filledIn now = .error f.exhausted := by
  obtain ⟨g, hg, kind⟩ := hm.field
  rw [hf] at hg
  injection hg with hg
  have last := h.fillAt_version hf (hg ▸ kind) now
  rw [if_neg ge] at last
  have fails := automaticValues_error hm.mem_automatic last fun p _ hp => by
    obtain ⟨o, ho, _⟩ := h.fillAt_other hm hp now
    exact ⟨o, ho⟩
  rw [filledIn, h.model, fails]
  rfl

end IsCopy

end Instance

end Tabula
