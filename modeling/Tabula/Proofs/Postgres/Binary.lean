import Tabula.Postgres.Binary
import Tabula.Proofs.Field.Conversion
import Tabula.Uuid
import Mathlib.Data.Nat.ModEq
/-!
# Words, texts and identifiers read back

What is written in network order is read as the number it was, a number that fits and only that; what stands behind a
word does not matter.  Texts and identifiers are read back from their bytes.
-/

namespace Tabula

namespace Postgres

variable {width n : Nat} {i : Int} {b rest : Bytes}

/-! ## Words -/

theorem length_natBytes (width n : Nat) : (natBytes width n).length = width := by
  induction width generalizing n with
  | zero => rfl
  | succ width ih => rw [natBytes, List.length_append, ih, List.length_singleton]

theorem natOfBytes_concat (b : Bytes) (c : UInt8) : natOfBytes (b ++ [c]) = natOfBytes b * 256 + c.toNat := by
  rw [natOfBytes, List.foldl_concat]
  rfl

theorem natOfBytes_natBytes (width n : Nat) : natOfBytes (natBytes width n) = n % 256 ^ width := by
  induction width generalizing n with
  | zero =>
    rw [pow_zero, Nat.mod_one]
    rfl
  | succ width ih =>
    have last : (UInt8.ofNat n).toNat = n % 256 := UInt8.toNat_ofNat'
    rw [natBytes, natOfBytes_concat, ih, last, pow_succ', Nat.mod_mul, Nat.mul_comm, Nat.add_comm]

theorem natOfBytes?_natBytes (h : n < 256 ^ width) : natOfBytes? width (natBytes width n) = some n := by
  rw [natOfBytes?, if_pos (length_natBytes width n), natOfBytes_natBytes, Nat.mod_eq_of_lt h]

theorem length_intBytes (width : Nat) (i : Int) : (intBytes width i).length = width := length_natBytes width _

theorem pow_bits (width : Nat) : (Nat.pow 2 (8 * width)) = 256 ^ width := by
  rw [Nat.pow_eq, Nat.pow_mul]

theorem natOfBytes_intBytes (width : Nat) (i : Int) :
    (natOfBytes (intBytes width i) : Int) = i % (Nat.pow 2 (8 * width) : Nat) := by
  have positive : 0 < ((Nat.pow 2 (8 * width) : Nat) : Int) := Int.natCast_pos.mpr (Nat.pow_pos (by decide))
  have small := Int.emod_lt_of_pos i positive
  have whole := Int.emod_nonneg i (ne_of_gt positive)
  rw [intBytes, natOfBytes_natBytes, ← pow_bits, Nat.mod_eq_of_lt (by omega), Int.toNat_of_nonneg whole]

/-- a number that fits is read back -/
theorem intOfBytes?_intBytes (h : Text.fitsSigned (8 * width) i = true) (some_ : 0 < width) :
    intOfBytes? width (intBytes width i) = some i := by
  obtain ⟨lower, upper⟩ := Text.fitsSigned_iff.mp h
  have twice : Nat.pow 2 (8 * width) = 2 * Nat.pow 2 (8 * width - 1) := by
    simp only [Nat.pow_eq]
    rw [← Nat.pow_succ']
    congr 1
    omega
  have centred : Int.bmod i (Nat.pow 2 (8 * width)) = i := by
    refine Int.bmod_eq_of_le_mul_two ?_ ?_ <;> rw [twice] <;> push_cast at lower upper ⊢ <;> omega
  rw [intOfBytes?, if_pos (length_intBytes width i), natOfBytes_intBytes, Int.emod_bmod, centred]

theorem natBytes_eq_intBytes (h : n < 256 ^ width) : natBytes width n = intBytes width n := by
  rw [intBytes, pow_bits, ← Int.natCast_emod, Nat.mod_eq_of_lt h, Int.toNat_natCast]

/-! ## What stands in front -/

theorem splitBytes?_append (b rest : Bytes) : splitBytes? b.length (b ++ rest) = some (b, rest) := by
  rw [splitBytes?, if_pos (by simp), List.splitAt_eq]
  simp

theorem takeNat?_natBytes (width n : Nat) (rest : Bytes) :
    takeNat? width (natBytes width n ++ rest) = some (n % 256 ^ width, rest) := by
  have front := splitBytes?_append (natBytes width n) rest
  rw [length_natBytes] at front
  rw [takeNat?, front]
  exact congrArg (fun m => some (m, rest)) (natOfBytes_natBytes width n)

theorem takeInt?_intBytes (h : Text.fitsSigned (8 * width) i = true) (some_ : 0 < width) (rest : Bytes) :
    takeInt? width (intBytes width i ++ rest) = some (i, rest) := by
  have front := splitBytes?_append (intBytes width i) rest
  rw [length_intBytes] at front
  rw [takeInt?, front]
  simp only [Option.bind_eq_bind, Option.bind_some, intOfBytes?_intBytes h some_]
  rfl

/-- a count in four bytes -/
theorem takeInt?_count (h : n < 2 ^ 31) (rest : Bytes) : takeInt? 4 (natBytes 4 n ++ rest) = some ((n : Int), rest) := by
  rw [natBytes_eq_intBytes (by omega)]
  have bits : (Nat.pow 2 (8 * 4 - 1) : Int) = 2147483648 := rfl
  exact takeInt?_intBytes (Text.fitsSigned_iff.mpr (by omega)) (by decide) rest

end Postgres

/-! ## Texts and identifiers -/

theorem Text.toList_loop (b : ByteArray) (i : Nat) (r : List UInt8) :
    ByteArray.toList.loop b i r = r.reverse ++ b.data.toList.drop i := by
  induction left : b.size - i generalizing i r with
  | zero =>
    have past : b.data.toList.length ≤ i := by
      show b.size ≤ i
      omega
    rw [ByteArray.toList.loop, if_neg (by omega), List.drop_eq_nil_of_le past, List.append_nil]
  | succ k ih =>
    have inside : i < b.data.toList.length := by
      show i < b.size
      omega
    have byte : b.get! i = b.data.toList[i] := getElem!_pos b.data i inside
    rw [ByteArray.toList.loop, if_pos (by omega), ih (i + 1) (b.get! i :: r) (by omega), byte,
      List.drop_eq_getElem_cons inside, List.reverse_cons, List.append_assoc, List.singleton_append]

theorem Text.toArray_toList (b : ByteArray) : (⟨b.toList.toArray⟩ : ByteArray) = b := by
  rw [ByteArray.toList, Text.toList_loop]
  rfl

/-- a text is read back from its bytes -/
theorem Text.ofUtf8?_utf8 (s : String) : Text.ofUtf8? (Text.utf8 s) = some s := by
  have valid : s.toUTF8.IsValidUTF8 := s.isValidUTF8
  rw [Text.ofUtf8?, Text.utf8, Text.toArray_toList, String.fromUTF8?, dif_pos valid]
  rfl

theorem Text.length_utf8 (s : String) : (Text.utf8 s).length = s.utf8ByteSize := by
  have size := congrArg ByteArray.size (Text.toArray_toList s.toUTF8)
  rw [← String.size_toByteArray]
  exact size

/-- an identifier is read back from its bytes -/
theorem Uuid.ofBytes?_toBytes (u : Uuid) : Uuid.ofBytes? u.toBytes = some u := by
  have size : u.toBytes.toArray.size = 16 := u.bytes.size_toArray
  rw [Uuid.ofBytes?, dif_pos size]
  rfl

end Tabula
