import Tabula.Value.Basic
/-!
# Equality of values

Equality compares numbers by value, so it is coarser than identity, and what is not a number equals nothing, not even
itself.  Equality is symmetric and transitive, and a value equals itself just if nothing in it is a floating-point number
that is none: `Value.same_symm`, `Value.same_trans` and `Value.same_self_eq`.
-/

namespace Tabula

/-! ## Numbers -/

namespace Double

variable {a b c : Double}

theorem same_iff : a.same b = true ↔
    a.isNaN = false ∧ b.isNaN = false ∧ (a = b ∨ a.isZero = true ∧ b.isZero = true) := by
  have bits : a.bits = b.bits ↔ a = b := ⟨fun h => by cases a; cases b; simpa using h, congrArg _⟩
  simp [same, and_assoc, bits]

theorem same_self_eq (d : Double) : d.same d = !d.isNaN := by
  cases number : d.isNaN <;> simp [same, number]

theorem same_symm (h : a.same b = true) : b.same a = true := by
  obtain ⟨left, right, equal⟩ := same_iff.mp h
  exact same_iff.mpr ⟨right, left, equal.imp Eq.symm And.symm⟩

theorem same_trans (h : a.same b = true) (h' : b.same c = true) : a.same c = true := by
  obtain ⟨left, _, equal⟩ := same_iff.mp h
  obtain ⟨_, right, equal'⟩ := same_iff.mp h'
  refine same_iff.mpr ⟨left, right, ?_⟩
  rcases equal with rfl | ⟨za, zb⟩
  · exact equal'
  · rcases equal' with rfl | ⟨_, zc⟩
    · exact .inr ⟨za, zb⟩
    · exact .inr ⟨za, zc⟩

end Double

namespace Decimal

variable {a b c : Decimal}

theorem pow_pos (n : Nat) : 0 < Nat.pow 10 n := Nat.pow_pos (by decide)

theorem same_iff : a.same b = true ↔ a.mantissa * Nat.pow 10 b.scale = b.mantissa * Nat.pow 10 a.scale ∧
    (a.negative = b.negative ∨ a.mantissa = 0) := by
  have zero : a.mantissa * Nat.pow 10 b.scale = 0 ↔ a.mantissa = 0 := by
    rw [Nat.mul_eq_zero]
    exact or_iff_left (Nat.ne_of_gt (pow_pos b.scale))
  simp only [same, Bool.and_eq_true, Bool.or_eq_true, beq_iff_eq, zero]

theorem mantissa_eq_zero (h : a.same b = true) : a.mantissa = 0 ↔ b.mantissa = 0 := by
  have scaled := (same_iff.mp h).1
  constructor
  · intro zero
    rw [zero, Nat.zero_mul] at scaled
    exact (Nat.mul_eq_zero.mp scaled.symm).resolve_right (Nat.ne_of_gt (pow_pos a.scale))
  · intro zero
    rw [zero, Nat.zero_mul] at scaled
    exact (Nat.mul_eq_zero.mp scaled).resolve_right (Nat.ne_of_gt (pow_pos b.scale))

theorem same_symm (h : a.same b = true) : b.same a = true := by
  obtain ⟨scaled, sign⟩ := same_iff.mp h
  exact same_iff.mpr ⟨scaled.symm, sign.imp Eq.symm (mantissa_eq_zero h).mp⟩

theorem same_trans (h : a.same b = true) (h' : b.same c = true) : a.same c = true := by
  obtain ⟨scaled, sign⟩ := same_iff.mp h
  obtain ⟨scaled', sign'⟩ := same_iff.mp h'
  refine same_iff.mpr ⟨Nat.eq_of_mul_eq_mul_right (pow_pos b.scale) ?_, ?_⟩
  · calc a.mantissa * Nat.pow 10 c.scale * Nat.pow 10 b.scale
        = a.mantissa * Nat.pow 10 b.scale * Nat.pow 10 c.scale := Nat.mul_right_comm ..
      _ = b.mantissa * Nat.pow 10 c.scale * Nat.pow 10 a.scale := by rw [scaled, Nat.mul_right_comm]
      _ = c.mantissa * Nat.pow 10 a.scale * Nat.pow 10 b.scale := by rw [scaled', Nat.mul_right_comm]
  · rcases sign with sign | zero
    · exact sign'.imp sign.trans (mantissa_eq_zero h).mpr
    · exact .inr zero

end Decimal

/-! ## Documents -/

namespace Json

mutual

/-- whether a floating-point number in a document is none -/
def hasNaN : Json → Bool
  | float d => d.isNaN
  | arr items => itemsHaveNaN items
  | obj members => membersHaveNaN members
  | _ => false

def itemsHaveNaN : List Json → Bool
  | [] => false
  | x :: xs => hasNaN x || itemsHaveNaN xs

def membersHaveNaN : List (String × Json) → Bool
  | [] => false
  | (_, x) :: xs => hasNaN x || membersHaveNaN xs

end

mutual

theorem same_self_eq (j : Json) : j.same j = !j.hasNaN := by
  cases j with
  | float d => exact d.same_self_eq
  | arr items => exact sameItems_self_eq items
  | obj members => exact sameMembers_self_eq members
  | _ => simp [same, hasNaN]

theorem sameItems_self_eq (xs : List Json) : sameItems xs xs = !itemsHaveNaN xs := by
  cases xs with
  | nil => rfl
  | cons x xs => simp [sameItems, itemsHaveNaN, same_self_eq x, sameItems_self_eq xs]

theorem sameMembers_self_eq (xs : List (String × Json)) : sameMembers xs xs = !membersHaveNaN xs := by
  cases xs with
  | nil => rfl
  | cons x xs =>
    obtain ⟨k, x⟩ := x
    simp [sameMembers, membersHaveNaN, same_self_eq x, sameMembers_self_eq xs]

end

mutual

theorem same_symm (a b : Json) (h : a.same b = true) : b.same a = true := by
  cases a <;> cases b <;> simp only [same, Bool.false_eq_true] at h ⊢
  case float.float => exact Double.same_symm h
  case arr.arr xs ys => exact sameItems_symm xs ys h
  case obj.obj xs ys => exact sameMembers_symm xs ys h
  all_goals exact BEq.symm h

theorem sameItems_symm (xs ys : List Json) (h : sameItems xs ys = true) : sameItems ys xs = true := by
  cases xs <;> cases ys <;> simp only [sameItems, Bool.false_eq_true, Bool.and_eq_true] at h ⊢
  case cons.cons x xs y ys => exact ⟨same_symm x y h.1, sameItems_symm xs ys h.2⟩

theorem sameMembers_symm (xs ys : List (String × Json)) (h : sameMembers xs ys = true) : sameMembers ys xs = true := by
  cases xs <;> cases ys <;> simp only [sameMembers, Bool.false_eq_true, Bool.and_eq_true] at h ⊢
  case cons.cons x xs y ys =>
    exact ⟨⟨BEq.symm h.1.1, same_symm x.2 y.2 h.1.2⟩, sameMembers_symm xs ys h.2⟩

end

mutual

theorem same_trans (a b c : Json) (h : a.same b = true) (h' : b.same c = true) : a.same c = true := by
  cases a <;> cases b <;> simp only [same, Bool.false_eq_true] at h <;>
    cases c <;> simp only [same, Bool.false_eq_true] at h' ⊢
  case float.float.float => exact Double.same_trans h h'
  case arr.arr.arr xs ys zs => exact sameItems_trans xs ys zs h h'
  case obj.obj.obj xs ys zs => exact sameMembers_trans xs ys zs h h'
  all_goals exact (eq_of_beq h) ▸ h'
termination_by structural a

theorem sameItems_trans (xs ys zs : List Json) (h : sameItems xs ys = true) (h' : sameItems ys zs = true) :
    sameItems xs zs = true := by
  cases xs <;> cases ys <;> simp only [sameItems, Bool.false_eq_true, Bool.and_eq_true] at h <;>
    cases zs <;> simp only [sameItems, Bool.false_eq_true, Bool.and_eq_true] at h' ⊢
  case cons.cons.cons x xs y ys z zs => exact ⟨same_trans x y z h.1 h'.1, sameItems_trans xs ys zs h.2 h'.2⟩
termination_by structural xs

theorem sameMembers_trans (xs ys zs : List (String × Json)) (h : sameMembers xs ys = true)
    (h' : sameMembers ys zs = true) : sameMembers xs zs = true := by
  cases xs <;> cases ys <;> simp only [sameMembers, Bool.false_eq_true, Bool.and_eq_true] at h <;>
    cases zs <;> simp only [sameMembers, Bool.false_eq_true, Bool.and_eq_true] at h' ⊢
  case cons.cons.cons x xs y ys z zs =>
    exact ⟨⟨(eq_of_beq h.1.1) ▸ h'.1.1, same_trans x.2 y.2 z.2 h.1.2 h'.1.2⟩, sameMembers_trans xs ys zs h.2 h'.2⟩
termination_by structural xs

end

end Json

/-! ## Values -/

namespace Value

mutual

/-- whether a value is, or contains, a floating-point number that is none -/
def hasNaN : Value → Bool
  | float d => d.isNaN
  | json j => j.hasNaN
  | list items => itemsHaveNaN items
  | _ => false

def itemsHaveNaN : List Value → Bool
  | [] => false
  | x :: xs => hasNaN x || itemsHaveNaN xs

end

mutual

/-- **A value equals itself unless a number in it is none.** -/
theorem same_self_eq (v : Value) : v.same v = !v.hasNaN := by
  cases v with
  | float d => exact d.same_self_eq
  | decimal d => simp [same, Decimal.same_iff, hasNaN]
  | json j => exact j.same_self_eq
  | list items => exact sameItems_self_eq items
  | _ => simp [same, hasNaN]

theorem sameItems_self_eq (xs : List Value) : sameItems xs xs = !itemsHaveNaN xs := by
  cases xs with
  | nil => rfl
  | cons x xs => simp [sameItems, itemsHaveNaN, same_self_eq x, sameItems_self_eq xs]

end

mutual

theorem same_symm (a b : Value) (h : a.same b = true) : b.same a = true := by
  cases a <;> cases b <;> simp only [same, Bool.false_eq_true] at h ⊢
  case float.float => exact Double.same_symm h
  case decimal.decimal => exact Decimal.same_symm h
  case json.json => exact Json.same_symm _ _ h
  case list.list xs ys => exact sameItems_symm xs ys h
  all_goals exact BEq.symm h

theorem sameItems_symm (xs ys : List Value) (h : sameItems xs ys = true) : sameItems ys xs = true := by
  cases xs <;> cases ys <;> simp only [sameItems, Bool.false_eq_true, Bool.and_eq_true] at h ⊢
  case cons.cons x xs y ys => exact ⟨same_symm x y h.1, sameItems_symm xs ys h.2⟩

end

mutual

theorem same_trans (a b c : Value) (h : a.same b = true) (h' : b.same c = true) : a.same c = true := by
  cases a <;> cases b <;> simp only [same, Bool.false_eq_true] at h <;>
    cases c <;> simp only [same, Bool.false_eq_true] at h' ⊢
  case float.float.float => exact Double.same_trans h h'
  case decimal.decimal.decimal => exact Decimal.same_trans h h'
  case json.json.json => exact Json.same_trans _ _ _ h h'
  case list.list.list xs ys zs => exact sameItems_trans xs ys zs h h'
  all_goals exact (eq_of_beq h) ▸ h'
termination_by structural a

theorem sameItems_trans (xs ys zs : List Value) (h : sameItems xs ys = true) (h' : sameItems ys zs = true) :
    sameItems xs zs = true := by
  cases xs <;> cases ys <;> simp only [sameItems, Bool.false_eq_true, Bool.and_eq_true] at h <;>
    cases zs <;> simp only [sameItems, Bool.false_eq_true, Bool.and_eq_true] at h' ⊢
  case cons.cons.cons x xs y ys z zs => exact ⟨same_trans x y z h.1 h'.1, sameItems_trans xs ys zs h.2 h'.2⟩
termination_by structural xs

end

end Value

end Tabula
