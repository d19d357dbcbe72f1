import Tabula.Proofs.Postgres.Binary
import Tabula.Text.Percent
/-!
# Escapes are read back

A text is read back from its bytes, character by character, and the bytes of a text are read back from its escapes.
-/

namespace Tabula.Text

variable {escapes : Char → Bool} {b : UInt8} {rest : Bytes} {p : PartialChar} {n : Nat}

/-! ## Characters -/

/-- the bytes of a text are those of its characters -/
theorem utf8_ofList (s : List Char) : utf8 (String.ofList s) = s.flatMap String.utf8EncodeChar := by
  have bytes : (String.ofList s).toUTF8 = (s.flatMap String.utf8EncodeChar).toByteArray := rfl
  rw [utf8, bytes, ByteArray.toList, toList_loop, List.toList_data_toByteArray]
  rfl

/-- the first byte of a character of several -/
theorem readableFrom_begin (h : beginChar b = ([], some p)) :
    readableFrom none (b :: rest) = readableFrom (some p) rest := by
  rw [readableFrom, nextByte, h]
  rfl

theorem toNat_byte (h : n < 256) : (UInt8.ofNat n).toNat = n := UInt8.toNat_ofNat_of_lt' h

/-- a byte in the middle of a character -/
theorem readableFrom_more {low high missing bits : Nat} (above : low ≤ n % 0x40 + 0x80)
    (below : n % 0x40 + 0x80 ≤ high) :
    readableFrom (some ⟨low, high, missing + 2, bits⟩) (UInt8.ofNat (n % 0x40 + 0x80) :: rest) =
      readableFrom (some ⟨0x80, 0xBF, missing + 1, bits * 64 + n % 0x40⟩) rest := by
  have byte : (UInt8.ofNat (n % 0x40 + 0x80)).toNat = n % 0x40 + 0x80 := toNat_byte (by omega)
  generalize UInt8.ofNat (n % 0x40 + 0x80) = b at byte ⊢
  simp [readableFrom, nextByte, byte, above, below]

/-- the last byte of a character -/
theorem readableFrom_last {low high bits : Nat} (above : low ≤ n % 0x40 + 0x80) (below : n % 0x40 + 0x80 ≤ high) :
    readableFrom (some ⟨low, high, 1, bits⟩) (UInt8.ofNat (n % 0x40 + 0x80) :: rest) =
      Char.ofNat (bits * 64 + n % 0x40) :: readableFrom none rest := by
  have byte : (UInt8.ofNat (n % 0x40 + 0x80)).toNat = n % 0x40 + 0x80 := toNat_byte (by omega)
  generalize UInt8.ofNat (n % 0x40 + 0x80) = b at byte ⊢
  simp [readableFrom, nextByte, byte, above, below]

theorem beginChar_two (low : 0xC2 ≤ n) (high : n ≤ 0xDF) :
    beginChar (UInt8.ofNat n) = ([], some ⟨0x80, 0xBF, 1, n - 0xC0⟩) := by
  have byte : (UInt8.ofNat n).toNat = n := toNat_byte (by omega)
  simp [beginChar, byte, low, high, show ¬ n < 0x80 by omega]

theorem beginChar_three (low : 0xE0 ≤ n) (high : n ≤ 0xEF) : beginChar (UInt8.ofNat n) =
    ([], some ⟨if n = 0xE0 then 0xA0 else 0x80, if n = 0xED then 0x9F else 0xBF, 2, n - 0xE0⟩) := by
  have byte : (UInt8.ofNat n).toNat = n := toNat_byte (by omega)
  simp [beginChar, byte, low, high, show ¬ n < 0x80 by omega, show ¬ n ≤ 0xDF by omega]

theorem beginChar_four (low : 0xF0 ≤ n) (high : n ≤ 0xF4) : beginChar (UInt8.ofNat n) =
    ([], some ⟨if n = 0xF0 then 0x90 else 0x80, if n = 0xF4 then 0x8F else 0xBF, 3, n - 0xF0⟩) := by
  have byte : (UInt8.ofNat n).toNat = n := toNat_byte (by omega)
  simp [beginChar, byte, low, high, show ¬ n < 0x80 by omega, show ¬ n ≤ 0xDF by omega, show ¬ n ≤ 0xEF by omega]

/-- a character is read back from its bytes -/
theorem readableFrom_char (c : Char) :
    readableFrom none (String.utf8EncodeChar c ++ rest) = c :: readableFrom none rest := by
  have same : Char.ofNat c.val.toNat = c := Char.ofNat_toNat c
  have scalar : c.val.toNat < 0xD800 ∨ 0xDFFF < c.val.toNat ∧ c.val.toNat < 0x110000 := c.valid
  unfold String.utf8EncodeChar
  generalize c.val.toNat = v at same scalar
  simp only
  split
  · have byte : (UInt8.ofNat v).toNat = v := toNat_byte (by omega)
    simp [readableFrom, nextByte, beginChar, byte, show v < 0x80 by omega, same]
  split
  · have bits : (v / 64 % 0x20 + 0xC0 - 0xC0) * 64 + v % 0x40 = v := by omega
    simp only [List.cons_append, List.nil_append]
    rw [readableFrom_begin (beginChar_two (by omega) (by omega)), readableFrom_last (by omega) (by omega), bits, same]
  split
  · have bits : ((v / 4096 % 0x10 + 0xE0 - 0xE0) * 64 + v / 64 % 0x40) * 64 + v % 0x40 = v := by omega
    simp only [List.cons_append, List.nil_append]
    -- surrogates and characters that two bytes can hold are outside the bounds of the second byte
    have low : (if v / 4096 % 0x10 + 0xE0 = 0xE0 then 0xA0 else 0x80) ≤ v / 64 % 0x40 + 0x80 := by split <;> omega
    have high : v / 64 % 0x40 + 0x80 ≤ if v / 4096 % 0x10 + 0xE0 = 0xED then 0x9F else 0xBF := by split <;> omega
    rw [readableFrom_begin (beginChar_three (by omega) (by omega)), readableFrom_more low high,
      readableFrom_last (by omega) (by omega), bits, same]
  · have bits : (((v / 262144 % 0x08 + 0xF0 - 0xF0) * 64 + v / 4096 % 0x40) * 64 + v / 64 % 0x40) * 64 + v % 0x40 = v := by
      omega
    simp only [List.cons_append, List.nil_append]
    have low : (if v / 262144 % 0x08 + 0xF0 = 0xF0 then 0x90 else 0x80) ≤ v / 4096 % 0x40 + 0x80 := by split <;> omega
    have high : v / 4096 % 0x40 + 0x80 ≤ if v / 262144 % 0x08 + 0xF0 = 0xF4 then 0x8F else 0xBF := by split <;> omega
    rw [readableFrom_begin (beginChar_four (by omega) (by omega)), readableFrom_more low high,
      readableFrom_more (by omega) (by omega), readableFrom_last (by omega) (by omega), bits, same]

/-- **A text is read back from its bytes.** -/
theorem readable_utf8 (s : String) : readable (utf8 s) = s := by
  have chars : ∀ cs : List Char, readableFrom none (cs.flatMap String.utf8EncodeChar) = cs := by
    intro cs
    induction cs with
    | nil => rfl
    | cons c cs ih => rw [List.flatMap_cons, readableFrom_char, ih]
  conv_lhs => rw [← String.ofList_toList (s := s)]
  rw [readable, utf8_ofList, chars, String.ofList_toList]

/-! ## Escapes -/

/-- an upper-case hexadecimal digit -/
def upperDigit (n : Nat) : Char := (hexDigit n).toUpper

/-- a digit has one byte, and its number is read back from it -/
theorem upperDigit_byte : ∀ n < 16,
    ∃ b, String.utf8EncodeChar (upperDigit n) = [b] ∧ hexOfByte? b = some n := by
  have each : ∀ n < 16, String.utf8EncodeChar (upperDigit n) = [UInt8.ofNat (upperDigit n).toNat] ∧
      hexOfByte? (UInt8.ofNat (upperDigit n).toNat) = some n := by decide
  exact fun n small => ⟨_, each n small⟩

/-- a byte that is no percent sign stands for itself -/
theorem percentDecoded_cons (plain : b ≠ 0x25) : percentDecoded (b :: rest) = b :: percentDecoded rest := by
  rw [percentDecoded]
  exact fun _ _ _ percent _ => plain percent

/-- a byte is read back from its escape -/
theorem percentDecoded_percentByte :
    percentDecoded ((percentByte b).flatMap String.utf8EncodeChar ++ rest) = b :: percentDecoded rest := by
  have small : b.toNat < 256 := b.toNat_lt
  obtain ⟨h, high, isHigh⟩ := upperDigit_byte (b.toNat / 16) (by omega)
  obtain ⟨l, low, isLow⟩ := upperDigit_byte (b.toNat % 16) (by omega)
  have bytes : (percentByte b).flatMap String.utf8EncodeChar = [0x25, h, l] := by
    simp only [percentByte, hexByte, List.map_cons, List.map_nil, List.flatMap_cons, List.flatMap_nil]
    rw [show (hexDigit (b.toNat / 16)).toUpper = upperDigit (b.toNat / 16) from rfl, high,
      show (hexDigit (b.toNat % 16)).toUpper = upperDigit (b.toNat % 16) from rfl, low]
    rfl
  rw [bytes]
  simp only [List.cons_append, List.nil_append, percentDecoded, isHigh, isLow]
  rw [Nat.div_add_mod', UInt8.ofNat_toNat]

theorem percentDecoded_percentBytes (bs : Bytes) :
    percentDecoded ((bs.flatMap percentByte).flatMap String.utf8EncodeChar ++ rest) = bs ++ percentDecoded rest := by
  induction bs with
  | nil => rfl
  | cons b bs ih => rw [List.flatMap_cons, List.flatMap_append, List.append_assoc, percentDecoded_percentByte, ih]; rfl

/-- a character with its escapes, if it needs any -/
def escaped (escapes : Char → Bool) (c : Char) : List Char :=
  if escapes c || 0x80 ≤ c.toNat then (String.utf8EncodeChar c).flatMap percentByte else [c]

theorem toList_percentEncoded (s : String) :
    (percentEncoded escapes s).toList = s.toList.flatMap (escaped escapes) := by
  have char (c : Char) : utf8 (String.singleton c) = String.utf8EncodeChar c := by
    rw [String.singleton_eq_ofList, utf8_ofList, List.flatMap_singleton]
  rw [percentEncoded, String.toList_ofList]
  simp only [char]
  rfl

/-- **The bytes of a text are read back from its escapes**, if percent signs are among what is escaped. -/
theorem percentDecoded_percentEncoded (percent : escapes '%' = true) (s : String) :
    percentDecoded (utf8 (percentEncoded escapes s)) = utf8 s := by
  have chars : ∀ cs : List Char, percentDecoded ((cs.flatMap (escaped escapes)).flatMap String.utf8EncodeChar) =
      cs.flatMap String.utf8EncodeChar := by
    intro cs
    induction cs with
    | nil => rfl
    | cons c cs ih =>
      rw [List.flatMap_cons, List.flatMap_append, List.flatMap_cons, escaped]
      split
      · rw [percentDecoded_percentBytes, ih]
      · next plain =>
        have plain : escapes c = false ∧ c.toNat < 0x80 := by simpa using plain
        have byte : String.utf8EncodeChar c = [UInt8.ofNat c.toNat] := by
          rw [String.utf8EncodeChar]
          exact if_pos (Nat.le_of_lt_succ plain.2)
        rw [List.flatMap_singleton, byte, List.singleton_append, percentDecoded_cons, ih]
        · rfl
        · intro same
          have code : c.toNat = 0x25 := by
            rw [← toNat_byte (n := c.toNat) (by omega), same]
            rfl
          obtain rfl : c = '%' := Char.ext (UInt32.toNat_inj.mp code)
          exact absurd percent (by simp [plain.1])
  conv_lhs => rw [← String.ofList_toList (s := percentEncoded escapes s)]
  conv_rhs => rw [← String.ofList_toList (s := s)]
  rw [utf8_ofList, utf8_ofList, toList_percentEncoded, chars]

/-- what holds of percent signs, of digits and of what is not escaped holds of every character of an escaped text -/
theorem forall_mem_percentEncoded {P : Char → Prop} (percent : P '%') (digits : ∀ n < 16, P (upperDigit n))
    (plain : ∀ c, escapes c = false → P c) (s : String) : ∀ c ∈ (percentEncoded escapes s).toList, P c := by
  intro c mem
  rw [toList_percentEncoded] at mem
  obtain ⟨d, -, mem⟩ := List.mem_flatMap.mp mem
  rw [escaped] at mem
  split at mem
  · obtain ⟨b, -, mem⟩ := List.mem_flatMap.mp mem
    have small : b.toNat < 256 := b.toNat_lt
    have three : c = '%' ∨ c = upperDigit (b.toNat / 16) ∨ c = upperDigit (b.toNat % 16) := by
      simpa [percentByte, hexByte, upperDigit] using mem
    rcases three with rfl | rfl | rfl
    · exact percent
    · exact digits _ (by omega)
    · exact digits _ (by omega)
  · next unescaped =>
    obtain rfl := List.mem_singleton.mp mem
    have unescaped : escapes c = false ∧ c.toNat < 0x80 := by simpa using unescaped
    exact plain c unescaped.1

end Tabula.Text
