import Tabula.Calendar.Instant
import Mathlib.Algebra.Group.Nat.Defs
import Mathlib.Data.List.TakeDrop
/-!
# The range of dates and moments

Dates are kept for the years from -262143 to 262142.  `IsKept` says that a date or a moment lies in them, `InReach` that
it lies in the slightly wider range that conversions stay within: a moment that is read with an offset may leave
the last day of a year.
-/

namespace Tabula

/-! ## Numbers read from digits -/

theorem Text.foldl_digits_lt {s : List Char} (digits : ∀ c ∈ s, c.isDigit = true) (n : Nat) :
    s.foldl (fun n c => n * 10 + (c.toNat - '0'.toNat)) n < (n + 1) * 10 ^ s.length := by
  induction s generalizing n with
  | nil => simp
  | cons c s ih =>
    have digit : c.toNat - '0'.toNat ≤ 9 := by
      have := digits c List.mem_cons_self
      simp only [Char.isDigit, Bool.and_eq_true, decide_eq_true_eq] at this
      have upper : c.toNat ≤ 57 := this.2
      have zero : '0'.toNat = 48 := rfl
      omega
    have rest := ih (fun d hd => digits d (List.mem_cons_of_mem _ hd)) (n * 10 + (c.toNat - '0'.toNat))
    have room : n * 10 + (c.toNat - '0'.toNat) + 1 ≤ (n + 1) * 10 := by omega
    calc s.foldl _ (n * 10 + (c.toNat - '0'.toNat))
        < (n * 10 + (c.toNat - '0'.toNat) + 1) * 10 ^ s.length := rest
      _ ≤ (n + 1) * 10 * 10 ^ s.length := Nat.mul_le_mul_right _ room
      _ = (n + 1) * 10 ^ (c :: s).length := by rw [List.length_cons, Nat.pow_succ', Nat.mul_assoc]

/-- digits stand for a number with no more digits -/
theorem Text.natOfDigits_lt {s : List Char} (digits : ∀ c ∈ s, c.isDigit = true) :
    natOfDigits s < 10 ^ s.length := by
  simpa [natOfDigits] using foldl_digits_lt digits 0

/-! ## Dates -/

namespace Date

/-- whether a date lies in the years that dates are kept for -/
def isKept (d : Date) : Bool := leastDay ≤ d.day && d.day ≤ greatestDay

/-- whether a date is at most a hundred million days away from 1970 -/
def InReach (d : Date) : Prop := -100000000 ≤ d.day ∧ d.day ≤ 100000000

theorem day_of_isKept {d : Date} (h : d.isKept = true) : -96465292 ≤ d.day ∧ d.day ≤ 95026236 := by
  simpa [isKept, show leastDay = -96465292 from rfl, show greatestDay = 95026236 from rfl] using h

theorem toDays_of_isValid {c : Civil} (h : c.isValid = true) : -96500000 ≤ c.toDays ∧ c.toDays ≤ 96500000 := by
  have lengths : Civil.monthLength c.year c.month ≤ 31 := by
    unfold Civil.monthLength
    split
    · split <;> decide
    · split <;> decide
  simp only [Civil.isValid, Bool.and_eq_true, decide_eq_true_eq] at h
  simp only [Civil.leastYear, Civil.greatestYear] at h
  simp only [Civil.toDays]
  omega

theorem day_of_ofCivil {c : Civil} {d : Date} (h : ofCivil? c = some d) : -96500000 ≤ d.day ∧ d.day ≤ 96500000 := by
  unfold ofCivil? at h
  split at h
  · next valid =>
    obtain rfl := Option.some.inj h
    exact toDays_of_isValid valid
  · cases h

theorem inReach_of_ofText {s : List Char} {d : Date} (h : ofText? s = some d) : d.InReach := by
  simp only [ofText?, Option.bind_eq_bind, Option.bind_eq_some_iff] at h
  obtain ⟨⟨year, _⟩, _, _, _, ⟨month, _⟩, _, _, _, ⟨day, _⟩, _, h⟩ := h
  split at h
  · have range := day_of_ofCivil h
    unfold InReach
    omega
  · cases h

end Date

/-! ## Moments -/

namespace Instant

/-- whether a moment lies in the years that dates are kept for, its second being a leap second at most -/
def isKept (t : Instant) : Bool := t.date.isKept && t.nanos < 2000000000

/-- whether a moment is at most a hundred million days away from 1970 -/
def InReach (t : Instant) : Prop :=
  -8640000000000 ≤ t.seconds ∧ t.seconds ≤ 8640000000000 ∧ t.nanos < 2000000000

theorem date_inReach {t : Instant} (h : t.isKept = true) : t.date.InReach := by
  simp only [isKept, Bool.and_eq_true] at h
  have range := Date.day_of_isKept h.1
  unfold Date.InReach
  omega

theorem inReach_of_isKept {t : Instant} (h : t.isKept = true) : t.InReach := by
  simp only [isKept, Bool.and_eq_true, decide_eq_true_eq] at h
  have range := Date.day_of_isKept h.1
  simp only [date] at range
  unfold InReach
  omega

theorem fractionOf_lt {s rest : List Char} {n : Nat} (h : fractionOf? s = some (n, rest)) : n < 1000000000 := by
  unfold fractionOf? at h
  split at h
  · next digits =>
    simp only [Text.spanDigits, List.span_eq_takeWhile_dropWhile] at h
    split at h
    · cases h
    · injection h with h
      injection h with h _
      subst h
      have each : ∀ c ∈ (digits.takeWhile Char.isDigit).take 9, c.isDigit = true := fun c hc =>
        List.all_eq_true.mp List.all_takeWhile c (List.mem_of_mem_take hc)
      have few : ((digits.takeWhile Char.isDigit).take 9).length ≤ 9 := List.length_take_le ..
      have less := Text.natOfDigits_lt each
      generalize (digits.takeWhile Char.isDigit).take 9 = kept at less few
      have positive : 0 < 10 ^ (9 - kept.length) := Nat.pow_pos (by decide)
      calc Text.natOfDigits kept * Nat.pow 10 (9 - kept.length)
          < 10 ^ kept.length * 10 ^ (9 - kept.length) := Nat.mul_lt_mul_of_pos_right less positive
        _ = 10 ^ 9 := by rw [← Nat.pow_add, Nat.add_sub_cancel' few]
  · injection h with h
    injection h with h _
    omega

theorem offsetOf_bounds {s rest : List Char} {offset : Int} (h : offsetOf? s = some (offset, rest)) :
    -86400 < offset ∧ offset < 86400 := by
  unfold offsetOf? at h
  split at h
  · cases h
  · split at h
    · injection h with h
      injection h with h _
      omega
    · split at h
      · simp only [Option.bind_eq_bind, Option.bind_eq_some_iff] at h
        obtain ⟨⟨hours, _⟩, _, _, _, ⟨minutes, _⟩, _, h⟩ := h
        split at h
        · next small =>
          simp only [Bool.and_eq_true, decide_eq_true_eq] at small
          injection h with h
          injection h with h _
          split at h <;> omega
        · cases h
      · cases h

theorem inReach_of_ofText {s : List Char} {t : Instant} (h : ofText? s = some t) : t.InReach := by
  unfold ofText? at h
  obtain ⟨⟨year, _⟩, _, h⟩ := Option.bind_eq_some_iff.mp h
  obtain ⟨_, _, h⟩ := Option.bind_eq_some_iff.mp h
  obtain ⟨⟨month, _⟩, _, h⟩ := Option.bind_eq_some_iff.mp h
  obtain ⟨_, _, h⟩ := Option.bind_eq_some_iff.mp h
  obtain ⟨⟨day, _⟩, _, h⟩ := Option.bind_eq_some_iff.mp h
  obtain ⟨⟨mark, _⟩, _, h⟩ := Option.bind_eq_some_iff.mp h
  dsimp only at h
  split at h
  · obtain ⟨⟨hour, _⟩, _, h⟩ := Option.bind_eq_some_iff.mp h
    obtain ⟨_, _, h⟩ := Option.bind_eq_some_iff.mp h
    obtain ⟨⟨minute, _⟩, _, h⟩ := Option.bind_eq_some_iff.mp h
    obtain ⟨_, _, h⟩ := Option.bind_eq_some_iff.mp h
    obtain ⟨⟨second, _⟩, _, h⟩ := Option.bind_eq_some_iff.mp h
    obtain ⟨⟨nanos, _⟩, fraction, h⟩ := Option.bind_eq_some_iff.mp h
    obtain ⟨⟨offset, _⟩, shift, h⟩ := Option.bind_eq_some_iff.mp h
    obtain ⟨date, civil, h⟩ := Option.bind_eq_some_iff.mp h
    have fractionSmall := fractionOf_lt fraction
    have shiftSmall := offsetOf_bounds shift
    have days := Date.day_of_ofCivil civil
    split at h
    · cases h
    · next clock =>
      obtain rfl := Option.some.inj h
      simp only [Bool.or_eq_true, decide_eq_true_eq, not_or] at clock
      have seconds : ((hour * 3600 + minute * 60 + min second 59 : Nat) : Int) < 86400 := by omega
      unfold InReach
      simp only
      refine ⟨by omega, by omega, ?_⟩
      split <;> omega
  · cases h

end Instant

end Tabula
