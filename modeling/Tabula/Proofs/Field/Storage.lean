import Tabula.Field.Storage
import Tabula.Proofs.Outcome
/-!
# What fields and columns hold

`FieldKind.owns` are the values that a field of a kind has for its own, `FieldKind.holds` the cells that its column
can hold.  The two differ for lengths of time only.  Accepting a value gives one of the field's own, accepting that
changes nothing any more, and a cell is read and written back as it is.
-/

namespace Tabula

/-! ## Equality of a value with itself -/

theorem Double.same_self {d : Double} (h : d.isFinite = true) : d.same d = true := by
  have number : d.isNaN = false := by
    simp only [isFinite, isNaN, decide_eq_true_eq, decide_eq_false_iff_not] at h ⊢
    omega
  simp [same, number]

theorem Decimal.same_self (d : Decimal) : d.same d = true := by
  simp [same]

namespace Json

mutual

/-- whether every floating-point number in a document is finite -/
def isFinite : Json → Bool
  | float d => d.isFinite
  | arr items => itemsFinite items
  | obj members => membersFinite members
  | _ => true

def itemsFinite : List Json → Bool
  | [] => true
  | x :: xs => isFinite x && itemsFinite xs

def membersFinite : List (String × Json) → Bool
  | [] => true
  | (_, x) :: xs => isFinite x && membersFinite xs

end

mutual

theorem same_self (j : Json) (h : j.isFinite = true) : j.same j = true := by
  cases j with
  | null => rfl
  | bool b => simp [same]
  | int i => simp [same]
  | float d => exact Double.same_self h
  | str s => simp [same]
  | arr items => exact sameItems_self items h
  | obj members => exact sameMembers_self members h

theorem sameItems_self (xs : List Json) (h : itemsFinite xs = true) : sameItems xs xs = true := by
  cases xs with
  | nil => rfl
  | cons x xs =>
    simp only [itemsFinite, Bool.and_eq_true] at h
    simp [sameItems, same_self x h.1, sameItems_self xs h.2]

theorem sameMembers_self (xs : List (String × Json)) (h : membersFinite xs = true) : sameMembers xs xs = true := by
  cases xs with
  | nil => rfl
  | cons x xs =>
    obtain ⟨k, x⟩ := x
    simp only [membersFinite, Bool.and_eq_true] at h
    simp [sameMembers, same_self x h.1, sameMembers_self xs h.2]

end

end Json

/-! ## Rounding and lengths of time -/

theorem Decimal.scale_of_ofSigned {negative : Bool} {mantissa scale : Nat} {d : Decimal}
    (h : ofSigned? negative mantissa scale = some d) : d.scale = scale := by
  unfold ofSigned? ofParts? at h
  split at h
  · injection h with h
    rw [← h]
  · simp at h

/-- rounding twice is rounding once -/
theorem Decimal.round_round (d : Decimal) (places : Nat) : (d.round places).round places = d.round places := by
  by_cases hs : places < d.scale
  · cases hr : ofSigned? d.negative (BinaryFormat.nearestEven d.mantissa (Nat.pow 10 (d.scale - places))) places with
    | none =>
      have first : d.round places = d := by
        rw [round, if_pos hs]
        simp only [hr]
      rw [first, first]
    | some r =>
      have first : d.round places = r := by
        rw [round, if_pos hs]
        simp only [hr]
      have enough : ¬places < r.scale := by
        rw [scale_of_ofSigned hr]
        omega
      rw [first, round, if_neg enough]
  · have first : d.round places = d := by rw [round, if_neg hs]
    rw [first, first]

theorem fitsSigned_toInt (n : Int64) : Text.fitsSigned 64 n.toInt = true := by
  have lower := n.le_toInt
  have upper := n.toInt_lt
  simp only [Text.fitsSigned, Bool.and_eq_true, decide_eq_true_eq, Nat.pow_eq]
  omega

/-- whole microseconds are counted back -/
theorem Span.micros_ofMicros (n : Int64) : (Span.ofMicros n.toInt).micros? = some n := by
  have whole : Int.tdiv (n.toInt * 1000) 1000 = n.toInt := Int.mul_tdiv_cancel _ (by decide)
  simp [micros?, ofMicros, whole, fitsSigned_toInt]

/-! ## Own values -/

namespace FieldKind

/-- whether a field of the kind has a value for its own -/
def owns : FieldKind → Value → Bool
  | _, .null => true
  | .int, .int i => Text.fitsSigned 32 i.toInt
  | .smallInt, .int i => Text.fitsSigned 16 i.toInt
  | .bigInt, .int _ | .auto, .int _ | .version, .int _ => true
  | .char _, .string _ | .text, .string _ => true
  | .boolean, .bool _ => true
  | .decimal _ places, .decimal d => d.round places = d
  | .instant _ _, .instant _ => true
  | .date, .date _ => true
  | .span, .span _ => true
  | .float, .float _ => true
  | .json, .json _ => true
  | .uuid, .uuid _ => true
  | .binary, .bytes _ => true
  | _, _ => false

/-- whether the column of the kind can hold a cell -/
def holds : FieldKind → Value → Bool
  | .span, .null | .span, .int _ => true
  | .span, _ => false
  | kind, v => kind.owns v

end FieldKind

namespace Field

variable {f : Field} {v w c : Value}

theorem orRefuse_ok {r : Option Value} : f.orRefuse v r = .ok w ↔ r = some w := by
  cases r <;> simp [orRefuse]

theorem readWord_some {bits : Nat} (h : v.readWord? bits = some w) :
    ∃ i, w = .int i ∧ Text.fitsSigned bits i.toInt = true := by
  obtain ⟨i, _, hi⟩ := Option.bind_eq_some_iff.mp h
  split at hi
  · next fits =>
    injection hi with hi
    exact ⟨i, hi.symm, fits⟩
  · simp at hi

/-- what a field makes of a value is its own -/
theorem owns_of_accept (h : f.accept v = .ok w) : f.kind.owns w = true := by
  unfold accept at h
  split at h
  · injection h with h
    rw [← h, FieldKind.owns]
  · cases hk : f.kind <;> simp only [hk] at h
    case int | smallInt =>
      obtain ⟨i, rfl, fits⟩ := readWord_some (orRefuse_ok.mp h)
      exact fits
    case json =>
      obtain ⟨j, _, rfl⟩ := Outcome.map_ok.mp h
      rfl
    case decimal =>
      obtain ⟨d, _, rfl⟩ := Option.map_eq_some_iff.mp (orRefuse_ok.mp h)
      simp [FieldKind.owns, Decimal.round_round]
    all_goals
      obtain ⟨own, _, rfl⟩ := Option.map_eq_some_iff.mp (orRefuse_ok.mp h)
      rfl

/-- a field leaves its own values alone -/
theorem accept_of_owns (h : f.kind.owns w = true) : f.accept w = .ok w := by
  unfold accept
  generalize f.kind = k at h ⊢
  revert h
  fun_cases FieldKind.owns <;> intro h <;>
    simp_all [orRefuse, Value.isNull, Value.readWord?, Value.readWhole?, Value.readText?, Value.readBool?,
      Value.readDecimal?, Value.readInstant?, Value.readDate?, Value.readSpan?, Value.readFloat?, Value.readUuid?,
      Value.readBytes?, Value.readJson, Value.toJson, Except.map]

/-- converting twice is converting once -/
theorem accept_accept (h : f.accept v = .ok w) : f.accept w = .ok w := accept_of_owns (owns_of_accept h)

/-! ## Cells -/

/-- the cell that one of a field's own values is stored in -/
def cellOf : Value → Option Value
  | .span s => s.micros?.map .int
  | v => some v

theorem toStorage_ok : f.toStorage v = .ok c ↔ ∃ w, f.accept v = .ok w ∧ cellOf w = some c := by
  rw [toStorage, Outcome.bind_ok]
  refine exists_congr fun w => and_congr_right fun _ => ?_
  cases w with
  | span s => exact orRefuse_ok
  | _ => exact Outcome.pure_ok.trans (Option.some.injEq ..).symm.to_iff

/-- a field's own value is stored as its cell -/
theorem toStorage_of_owns (h : f.kind.owns w = true) (hc : cellOf w = some c) : f.toStorage w = .ok c :=
  toStorage_ok.mpr ⟨w, accept_of_owns h, hc⟩

/-- a version is stored as it is -/
theorem toStorage_counter (kind : f.kind = .version) (n : Int64) : f.toStorage (.int n) = .ok (.int n) :=
  toStorage_of_owns (by rw [kind]; rfl) rfl

/-- what is stored for a value is stored for what the field makes of it -/
theorem toStorage_of_accept (h : f.accept v = .ok w) (hc : f.toStorage v = .ok c) : f.toStorage w = .ok c := by
  obtain ⟨u, hu, stored⟩ := toStorage_ok.mp hc
  rw [h] at hu
  injection hu with hu
  exact toStorage_ok.mpr ⟨u, hu ▸ accept_accept h, stored⟩

/-- what is stored is a cell of the field's column -/
theorem holds_of_toStorage (h : f.toStorage v = .ok c) : f.kind.holds c = true := by
  obtain ⟨w, hw, stored⟩ := toStorage_ok.mp h
  have own := owns_of_accept hw
  by_cases hs : f.kind = .span
  · rw [hs] at own ⊢
    cases w with
    | null =>
      injection stored with stored
      rw [← stored, FieldKind.holds]
    | span s =>
      obtain ⟨n, _, rfl⟩ := Option.map_eq_some_iff.mp stored
      rfl
    | _ => simp [FieldKind.owns] at own
  · have same : w = c := by
      cases w with
      | span s => cases hk : f.kind <;> simp_all [FieldKind.owns]
      | _ => exact Option.some.inj stored
    rw [← same]
    unfold FieldKind.holds
    split <;> simp_all

/-- a field of lengths of time reads a number as that many microseconds -/
theorem accept_micros (kind : f.kind = .span) (n : Int64) : f.accept (.int n) = .ok (.span (.ofMicros n.toInt)) := by
  simp [accept, kind, Value.isNull, Value.readSpan?, Value.readWhole?, orRefuse]

/-- **A cell is read and written back as it is.** -/
theorem accept_of_holds (h : f.kind.holds c = true) : ∃ w, f.accept c = .ok w ∧ f.toStorage w = .ok c := by
  by_cases hs : f.kind = .span
  · cases c with
    | null => exact ⟨.null, rfl, rfl⟩
    | int n =>
      have read := accept_micros hs n
      refine ⟨_, read, toStorage_ok.mpr ⟨_, accept_accept read, ?_⟩⟩
      rw [cellOf, Span.micros_ofMicros, Option.map_some]
    | _ => simp [hs, FieldKind.holds] at h
  · have own : f.kind.owns c = true := by
      unfold FieldKind.holds at h
      split at h <;> simp_all
    have kept : cellOf c = some c := by
      cases c with
      | span s => cases hk : f.kind <;> simp_all [FieldKind.owns]
      | _ => rfl
    exact ⟨c, accept_of_owns own, toStorage_of_owns own kept⟩

/-- a cell that holds no floating-point numbers but finite ones equals itself -/
theorem same_self_of_holds (h : f.kind.holds c = true) (hf : f.kind ≠ .float)
    (finite : ∀ j, c = .json j → j.isFinite = true) : c.same c = true := by
  cases c with
  | float d => cases hk : f.kind <;> simp_all [FieldKind.holds, FieldKind.owns]
  | list items => cases hk : f.kind <;> simp_all [FieldKind.holds, FieldKind.owns]
  | json j => exact Json.same_self j (finite j rfl)
  | decimal d => exact Decimal.same_self d
  | _ => simp [Value.same]

end Field

end Tabula
