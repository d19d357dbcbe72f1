import Tabula.Proofs.Field.Storage
/-!
# Conversions settle

A field converts a value again and again on its way in and out.  `Field.conversions_settle`: the first conversion settles
it.  What has been accepted is accepted as it is and stored like the value it came from, what has been stored is stored
as it is, and both are of the field's kind and within its range.
-/

namespace Tabula

/-! ## Kinds and their ranges -/

/-- the values of a kind, those that are missing apart -/
inductive FieldKind.Has : FieldKind → Value → Prop where
  | int {i : Int64} (lower : -2147483648 ≤ i.toInt) (upper : i.toInt ≤ 2147483647) : Has .int (.int i)
  | smallInt {i : Int64} (lower : -32768 ≤ i.toInt) (upper : i.toInt ≤ 32767) : Has .smallInt (.int i)
  | bigInt (i : Int64) : Has .bigInt (.int i)
  | auto (i : Int64) : Has .auto (.int i)
  | version (i : Int64) : Has .version (.int i)
  | char (maxLength : Nat) (s : String) : Has (.char maxLength) (.string s)
  | text (s : String) : Has .text (.string s)
  | boolean (b : Bool) : Has .boolean (.bool b)
  | decimal {maxDigits places : Nat} {d : Decimal} (rounded : d.scale ≤ places) :
    Has (.decimal maxDigits places) (.decimal d)
  | instant (onSave onCreate : Bool) (t : Instant) : Has (.instant onSave onCreate) (.instant t)
  | date (d : Date) : Has .date (.date d)
  | span (s : Span) : Has .span (.span s)
  | float (d : Double) : Has .float (.float d)
  | json (j : Json) : Has .json (.json j)
  | uuid (u : Uuid) : Has .uuid (.uuid u)
  | binary (b : Bytes) : Has .binary (.bytes b)

/-- what the values of a kind are stored as: lengths of time as their whole microseconds, all others as themselves -/
inductive FieldKind.StoredAs : FieldKind → Value → Value → Prop where
  | micros {t : Span} {n : Int64} (counted : n.toInt = t.nanos.tdiv 1000) : StoredAs .span (.span t) (.int n)
  | itself {kind : FieldKind} {v : Value} (other : kind ≠ .span) : StoredAs kind v v

/-! ## Ranges -/

theorem Text.fitsSigned_iff {bits : Nat} {i : Int} :
    fitsSigned bits i = true ↔ -(Nat.pow 2 (bits - 1) : Int) ≤ i ∧ i < (Nat.pow 2 (bits - 1) : Int) := by
  simp [fitsSigned]

/-- a quotient by ten or more that is rounded stays below a bound on the dividend -/
theorem BinaryFormat.nearestEven_lt {num den bound : Nat} (large : 10 ≤ den) (h : num < bound) (room : 1 < bound) :
    nearestEven num den < bound := by
  have quotient : num / den ≤ num / 10 := Nat.div_le_div_left large (by decide)
  unfold nearestEven
  simp only
  split <;> omega

/-- **Rounding leaves no more places than asked for.** -/
theorem Decimal.scale_round_le (d : Decimal) (places : Nat) : (d.round places).scale ≤ places := by
  unfold round
  split
  · next more =>
    have large : 10 ≤ Nat.pow 10 (d.scale - places) := by
      have := Nat.pow_le_pow_right (n := 10) (by decide) (show 1 ≤ d.scale - places by omega)
      simpa using this
    have mantissa := BinaryFormat.nearestEven_lt large d.mantissa_lt (by decide)
    have scale : places ≤ 28 := Nat.le_trans (Nat.le_of_lt more) d.scale_le
    simp only [ofSigned?, ofParts?, mantissa, scale, and_self, dite_true, Nat.le_refl]
  · next enough => exact Nat.le_of_not_lt enough

/-- the whole microseconds of a length of time, where they fit -/
theorem Span.toInt_micros {t : Span} {n : Int64} (h : t.micros? = some n) : n.toInt = t.nanos.tdiv 1000 := by
  unfold micros? at h
  simp only at h
  split at h
  · next fits =>
    injection h with h
    have bounds := Text.fitsSigned_iff.mp fits
    rw [← h, Int64.toInt_ofInt_of_le bounds.1 bounds.2]
  · cases h

/-! ## Converted values -/

namespace Field

variable {f : Field} {x v s : Value}

/-- **What a field makes of a value that is there is of its kind and within its range.** -/
theorem has_of_accept (h : f.accept x = .ok v) (there : x.isNull = false) : f.kind.Has v := by
  rw [accept, if_neg (by simp [there])] at h
  cases hk : f.kind <;> simp only [hk] at h
  case int =>
    obtain ⟨i, rfl, fits⟩ := readWord_some (orRefuse_ok.mp h)
    have bounds := Text.fitsSigned_iff.mp fits
    exact .int bounds.1 (Int.le_of_lt_add_one bounds.2)
  case smallInt =>
    obtain ⟨i, rfl, fits⟩ := readWord_some (orRefuse_ok.mp h)
    have bounds := Text.fitsSigned_iff.mp fits
    exact .smallInt bounds.1 (Int.le_of_lt_add_one bounds.2)
  case decimal maxDigits places =>
    obtain ⟨d, _, rfl⟩ := Option.map_eq_some_iff.mp (orRefuse_ok.mp h)
    exact .decimal (d.scale_round_le places)
  case json =>
    obtain ⟨j, _, rfl⟩ := Outcome.map_ok.mp h
    exact .json j
  all_goals
    obtain ⟨own, _, rfl⟩ := Option.map_eq_some_iff.mp (orRefuse_ok.mp h)
    constructor

/-- only fields that hold lengths of time make lengths of time -/
theorem kind_of_accept_span {t : Span} (h : f.accept x = .ok (.span t)) : f.kind = .span := by
  have own := owns_of_accept h
  cases hk : f.kind <;> simp_all [FieldKind.owns]

/-- a length of time that was made of another value is counted in whole microseconds -/
theorem eq_or_counted_of_accept {t : Span} (h : f.accept x = .ok (.span t)) :
    x = .span t ∨ ∃ n, t.micros? = some n := by
  have kind := kind_of_accept_span h
  unfold accept at h
  split at h
  · cases h
  · simp only [kind] at h
    obtain ⟨own, read, same⟩ := Option.map_eq_some_iff.mp (orRefuse_ok.mp h)
    injection same with same
    subst same
    unfold Value.readSpan? at read
    split at read
    · injection read with read
      exact .inl (congrArg Value.span read)
    · obtain ⟨n, _, rfl⟩ := Option.map_eq_some_iff.mp read
      exact .inr ⟨n, Span.micros_ofMicros n⟩

/-- **What a field makes of a value is stored like the value**, or refused like it. -/
theorem toStorage_eq_of_accept (h : f.accept x = .ok v) : f.toStorage v = f.toStorage x := by
  have again := accept_accept h
  cases v with
  | span t =>
    rcases eq_or_counted_of_accept h with rfl | ⟨n, counted⟩
    · rfl
    · have cell : cellOf (.span t) = some (.int n) := by rw [cellOf, counted, Option.map_some]
      rw [toStorage_ok.mpr ⟨_, again, cell⟩, toStorage_ok.mpr ⟨_, h, cell⟩]
  | _ => rw [toStorage, toStorage, again, h, Outcome.ok_bind, Outcome.ok_bind]

/-- **What is stored is stored as it is.** -/
theorem toStorage_toStorage (h : f.toStorage x = .ok s) : f.toStorage s = .ok s := by
  obtain ⟨w, hw, stored⟩ := accept_of_holds (holds_of_toStorage h)
  rw [← toStorage_eq_of_accept hw, stored]

/-- what is stored for a value that is there is the field's own value of it, a length of time in microseconds -/
theorem storedAs_of_toStorage (h : f.toStorage x = .ok s) (there : x.isNull = false) :
    ∃ v, f.accept x = .ok v ∧ f.kind.Has v ∧ f.kind.StoredAs v s := by
  obtain ⟨v, hv, cell⟩ := toStorage_ok.mp h
  refine ⟨v, hv, has_of_accept hv there, ?_⟩
  cases v with
  | span t =>
    obtain ⟨n, counted, rfl⟩ := Option.map_eq_some_iff.mp cell
    rw [kind_of_accept_span hv]
    exact .micros (Span.toInt_micros counted)
  | _ =>
    obtain rfl := Option.some.inj cell
    refine .itself fun kind => ?_
    have has := has_of_accept hv there
    rw [kind] at has
    cases has

/-- what is stored for a value is missing just if the value is -/
theorem isNull_of_toStorage (h : f.toStorage x = .ok s) : s.isNull = x.isNull := by
  cases there : x.isNull with
  | true =>
    have missing : f.accept x = .ok .null := by rw [accept, if_pos there]
    obtain ⟨v, hv, cell⟩ := toStorage_ok.mp h
    rw [missing] at hv
    obtain rfl := Except.ok.inj hv
    obtain rfl := Option.some.inj cell
    rfl
  | false =>
    obtain ⟨v, _, has, stored⟩ := storedAs_of_toStorage h there
    generalize f.kind = kind at has stored
    cases stored with
    | micros _ => rfl
    | itself _ => cases has <;> rfl

/-- **The first conversion settles a value.**  Whatever the field and the value: what is accepted is accepted as it is and
has the outcome of the value when it is stored; what is stored is stored as it is; and what comes of a value that is
there is of the field's kind and within its range. -/
theorem conversions_settle (f : Field) (x : Value) :
    (∀ v, f.accept x = .ok v → f.accept v = .ok v ∧ f.toStorage v = f.toStorage x ∧
      (x.isNull = false → f.kind.Has v)) ∧
    (∀ s, f.toStorage x = .ok s → f.toStorage s = .ok s ∧
      (x.isNull = false → ∃ v, f.accept x = .ok v ∧ f.kind.Has v ∧ f.kind.StoredAs v s)) :=
  ⟨fun _ h => ⟨accept_accept h, toStorage_eq_of_accept h, has_of_accept h⟩,
    fun _ h => ⟨toStorage_toStorage h, storedAs_of_toStorage h⟩⟩

example : (Field.new "price" (.decimal 10 2)).toStorage (.string "3.14159") =
    .ok (.decimal ⟨false, 314, 2, by decide, by decide⟩) := by rfl

end Field

end Tabula
