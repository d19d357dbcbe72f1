import Tabula.Proofs.Text.Percent
import Tabula.Schema.Name
/-!
# Names cut at boundaries

A name has a bound in bytes, and characters take one to four of them.  `Schema.names_bounded`: stepping back from any
offset finds a boundary before the text is left, since a text has one at its beginning; what is cut there is the
longest beginning that fits; and a name, whatever its parts are, is such a beginning with the digits of the digest
behind it.
-/

namespace Tabula.Schema

open String (utf8EncodeChar)

variable {bytes : Bytes} {n : Nat} {s t : String}

/-! ## The bytes of a character -/

theorem startsChar_iff {b : UInt8} : startsChar b = true ↔ b.toNat < 0x80 ∨ 0xC0 ≤ b.toNat := by
  simp [startsChar, UInt8.lt_iff_toNat_lt, UInt8.le_iff_toNat_le]

/-- the first byte of a character tells that it is one, and the others tell that they are not -/
theorem utf8EncodeChar_eq (c : Char) : ∃ b later, utf8EncodeChar c = b :: later ∧ startsChar b = true ∧
    ∀ x ∈ later, startsChar x = false := by
  have first (k : Nat) (small : k < 256) (starts : k < 0x80 ∨ 0xC0 ≤ k) : startsChar (UInt8.ofNat k) = true := by
    rw [startsChar_iff, Text.toNat_byte small]
    exact starts
  have later (k : Nat) : startsChar (UInt8.ofNat (k % 64 + 128)) = false := by
    rw [← Bool.not_eq_true, startsChar_iff, Text.toNat_byte (by omega)]
    omega
  have none (x : UInt8) (hx : x ∈ ([] : Bytes)) : startsChar x = false := absurd hx List.not_mem_nil
  unfold utf8EncodeChar
  generalize c.val.toNat = v
  simp only
  -- one to four bytes
  split
  · exact ⟨_, _, rfl, first v (by omega) (by omega), none⟩
  split
  · exact ⟨_, _, rfl, first _ (by omega) (by omega), by simpa only [List.forall_mem_cons, later, true_and]⟩
  split
  · exact ⟨_, _, rfl, first _ (by omega) (by omega), by simpa only [List.forall_mem_cons, later, true_and]⟩
  · exact ⟨_, _, rfl, first _ (by omega) (by omega), by simpa only [List.forall_mem_cons, later, true_and]⟩

/-! ## Boundaries -/

/-- boundaries behind a front are those of what follows -/
theorem isBoundary_append (front bytes : Bytes) (n : Nat) :
    isBoundary (front ++ bytes) (front.length + n) = isBoundary bytes n := by
  rw [isBoundary, isBoundary, List.getElem?_append_right (Nat.le_add_right _ _), Nat.add_sub_cancel_left,
    List.length_append]
  cases bytes[n]? with
  | some b => rfl
  | none => simp

/-- there is no boundary inside a character -/
theorem isBoundary_inside (c : Char) (rest : Bytes) (positive : 0 < n) (inside : n < (utf8EncodeChar c).length) :
    isBoundary (utf8EncodeChar c ++ rest) n = false := by
  obtain ⟨b, later, encoded, -, none⟩ := utf8EncodeChar_eq c
  obtain ⟨k, rfl⟩ : ∃ k, n = k + 1 := ⟨n - 1, by omega⟩
  rw [encoded] at inside ⊢
  have there : k < later.length := by simpa using inside
  rw [isBoundary, List.cons_append, List.getElem?_cons_succ, List.getElem?_append_left there,
    List.getElem?_eq_getElem there]
  exact none _ (List.getElem_mem there)

/-- a text has a boundary at its beginning -/
theorem isBoundary_zero (cs : List Char) : isBoundary (cs.flatMap utf8EncodeChar) 0 = true := by
  cases cs with
  | nil => rfl
  | cons c cs =>
    obtain ⟨b, later, encoded, starts, -⟩ := utf8EncodeChar_eq c
    rw [List.flatMap_cons, encoded]
    exact starts

theorem isBoundary_chars {cs : List Char} : isBoundary (cs.flatMap utf8EncodeChar) n = true ↔
    ∃ front rest, cs = front ++ rest ∧ (front.flatMap utf8EncodeChar).length = n := by
  induction cs generalizing n with
  | nil =>
    constructor
    · intro boundary
      have zero : n = 0 := by simpa [isBoundary] using boundary
      exact ⟨[], [], rfl, zero.symm⟩
    · rintro ⟨front, rest, all, rfl⟩
      obtain ⟨rfl, -⟩ := List.append_eq_nil_iff.mp all.symm
      rfl
  | cons c cs ih =>
    rcases Nat.eq_zero_or_pos n with rfl | positive
    · exact iff_of_true (isBoundary_zero _) ⟨[], c :: cs, rfl, rfl⟩
    rw [List.flatMap_cons]
    -- behind the first character the boundaries are those of the others
    rcases Nat.lt_or_ge n (utf8EncodeChar c).length with inside | behind
    · rw [isBoundary_inside c _ positive inside]
      refine iff_of_false Bool.false_ne_true ?_
      rintro ⟨front, rest, all, length⟩
      cases front with
      | nil => exact absurd length (Nat.ne_of_lt positive)
      | cons d front =>
        obtain ⟨rfl, -⟩ := List.cons.inj all
        rw [List.flatMap_cons, List.length_append] at length
        omega
    · obtain ⟨k, rfl⟩ := Nat.exists_eq_add_of_le behind
      rw [isBoundary_append, ih]
      constructor
      · rintro ⟨front, rest, rfl, rfl⟩
        exact ⟨c :: front, rest, rfl, by rw [List.flatMap_cons, List.length_append]⟩
      · rintro ⟨front, rest, all, length⟩
        cases front with
        | nil => exact absurd length (Nat.ne_of_lt positive)
        | cons d front =>
          obtain ⟨rfl, rfl⟩ := List.cons.inj all
          rw [List.flatMap_cons, List.length_append] at length
          exact ⟨front, rest, rfl, by omega⟩

theorem utf8_eq_flatMap (s : String) : Text.utf8 s = s.toList.flatMap utf8EncodeChar := by
  rw [← Text.utf8_ofList, String.ofList_toList]

theorem utf8_append (s t : String) : Text.utf8 (s ++ t) = Text.utf8 s ++ Text.utf8 t := by
  rw [utf8_eq_flatMap, utf8_eq_flatMap, utf8_eq_flatMap, String.toList_append, List.flatMap_append]

/-- **A text may be parted where a beginning of it ends.** -/
theorem isBoundary_utf8 : isBoundary (Text.utf8 s) n = true ↔ ∃ t rest, s = t ++ rest ∧ t.utf8ByteSize = n := by
  rw [utf8_eq_flatMap, isBoundary_chars]
  constructor
  · rintro ⟨front, rest, all, length⟩
    refine ⟨String.ofList front, String.ofList rest, ?_, ?_⟩
    · rw [← String.ofList_append, ← all, String.ofList_toList]
    · rw [← Text.length_utf8, Text.utf8_ofList, length]
  · rintro ⟨t, rest, rfl, size⟩
    refine ⟨t.toList, rest.toList, String.toList_append, ?_⟩
    rw [← utf8_eq_flatMap, Text.length_utf8, size]

/-! ## Stepping back -/

/-- the steps end at the last boundary that is not behind the offset, if there is one at the beginning -/
theorem boundaryFrom?_eq (start : isBoundary bytes 0 = true) (n : Nat) : ∃ k, boundaryFrom? bytes n = some k ∧
    k ≤ n ∧ isBoundary bytes k = true ∧ ∀ j ≤ n, isBoundary bytes j = true → j ≤ k := by
  induction n with
  | zero => exact ⟨0, by rw [boundaryFrom?, if_pos start], Nat.le_refl 0, start, fun j h _ => h⟩
  | succ n ih =>
    by_cases here : isBoundary bytes (n + 1) = true
    · exact ⟨n + 1, by rw [boundaryFrom?, if_pos here], Nat.le_refl _, here, fun j h _ => h⟩
    · obtain ⟨k, found, below, boundary, last⟩ := ih
      refine ⟨k, by rw [boundaryFrom?, if_neg here, found], by omega, boundary, fun j h hj => ?_⟩
      have other : j ≠ n + 1 := by
        rintro rfl
        exact here hj
      exact last j (by omega) hj

-- the fourth byte is the second one of a letter
example : boundaryFrom? (Text.utf8 "aéé") 4 = some 3 := by decide +kernel

/-! ## Cutting -/

/-- the longest beginning of a text among those of at most `room` bytes -/
structure LongestWithin (room : Nat) (s t : String) : Prop where
  begins : ∃ rest, s = t ++ rest
  fits : t.utf8ByteSize ≤ room
  longest : ∀ u rest, s = u ++ rest → u.utf8ByteSize ≤ room → u.utf8ByteSize ≤ t.utf8ByteSize

/-- a text is its own longest beginning if it fits -/
theorem LongestWithin.whole {room : Nat} (fits : s.utf8ByteSize ≤ room) : LongestWithin room s s := by
  refine ⟨⟨"", String.append_empty.symm⟩, fits, ?_⟩
  rintro u rest rfl -
  rw [String.utf8ByteSize_append]
  exact Nat.le_add_right _ _

/-- there is only one longest beginning -/
theorem LongestWithin.unique {room : Nat} {u : String} (ht : LongestWithin room s t) (hu : LongestWithin room s u) :
    t = u := by
  obtain ⟨rest, rfl⟩ := ht.begins
  obtain ⟨rest', same⟩ := hu.begins
  have sizes : (Text.utf8 t).length = (Text.utf8 u).length := by
    rw [Text.length_utf8, Text.length_utf8]
    exact Nat.le_antisymm (hu.longest t rest rfl ht.fits) (ht.longest u rest' same hu.fits)
  have bytes : Text.utf8 t ++ Text.utf8 rest = Text.utf8 u ++ Text.utf8 rest' := by
    rw [← utf8_append, same, utf8_append]
  have read := congrArg Text.ofUtf8? (List.append_inj bytes sizes).1
  rw [Text.ofUtf8?_utf8, Text.ofUtf8?_utf8] at read
  exact Option.some.inj read

/-- **Cutting never fails, and leaves as much as fits.** -/
theorem cut?_longest (room : Nat) (s : String) : ∃ t, cut? room s = some t ∧ LongestWithin room s t := by
  have cutting : cut? room s = if s.utf8ByteSize ≤ room then some s
      else (boundaryFrom? (Text.utf8 s) room).bind fun offset => Text.ofUtf8? ((Text.utf8 s).take offset) := by
    rw [← Text.length_utf8]
    rfl
  by_cases whole : s.utf8ByteSize ≤ room
  · exact ⟨s, by rw [cutting, if_pos whole], .whole whole⟩
  · have start : isBoundary (Text.utf8 s) 0 = true :=
      isBoundary_utf8.mpr ⟨"", s, String.empty_append.symm, rfl⟩
    obtain ⟨k, found, below, boundary, last⟩ := boundaryFrom?_eq start room
    obtain ⟨t, rest, rfl, rfl⟩ := isBoundary_utf8.mp boundary
    have read : Text.ofUtf8? ((Text.utf8 (t ++ rest)).take t.utf8ByteSize) = some t := by
      rw [utf8_append, List.take_left' (Text.length_utf8 t), Text.ofUtf8?_utf8]
    refine ⟨t, ?_, ⟨rest, rfl⟩, below, fun u rest' same fits => ?_⟩
    · rw [cutting, if_neg whole, found, Option.bind_some, read]
    · exact last _ fits (isBoundary_utf8.mpr ⟨u, rest', same, rfl⟩)

/-! ## Names -/

variable (use table : String) (fields : List String)

/-- a digest has 32 bytes, four for each of its words -/
theorem length_sha256 (message : Bytes) : (Digest.sha256 message).length = 32 := by
  simp [Digest.sha256, Digest.bigEndian, List.length_flatMap]

/-- the digest part of a name always has all its digits -/
theorem length_nameDigest : (nameDigest table fields).toList.length = digestDigits := by
  have digits (b : Bytes) : (Text.hexOfBytes b).toList.length = b.length * 2 := by
    simp [Text.hexOfBytes, Text.hexByte, List.length_flatMap]
  rw [nameDigest, firstChars, String.toList_ofList, List.length_take, digits, length_sha256]
  rfl

/-- the digest part of a name is of hexadecimal digits -/
theorem hex_of_mem_nameDigest {c : Char} (hc : c ∈ (nameDigest table fields).toList) :
    ∃ n < 16, c = Text.hexDigit n := by
  rw [nameDigest, firstChars, String.toList_ofList] at hc
  have shown := List.mem_of_mem_take hc
  rw [Text.hexOfBytes, String.toList_ofList] at shown
  obtain ⟨b, -, digit⟩ := List.mem_flatMap.mp shown
  have below := b.toNat_lt
  rcases List.mem_pair.mp digit with rfl | rfl
  · exact ⟨_, by omega, rfl⟩
  · exact ⟨_, Nat.mod_lt _ (by decide), rfl⟩

/-- hexadecimal digits take one byte each -/
theorem utf8Size_hexDigit : ∀ n < 16, (Text.hexDigit n).utf8Size = 1 := by decide

theorem utf8ByteSize_nameDigest : (nameDigest table fields).utf8ByteSize = digestDigits := by
  have single : ∀ c ∈ (nameDigest table fields).toList, (utf8EncodeChar c).length = 1 := by
    intro c hc
    obtain ⟨n, below, rfl⟩ := hex_of_mem_nameDigest table fields hc
    rw [String.length_utf8EncodeChar, utf8Size_hexDigit n below]
  calc (nameDigest table fields).utf8ByteSize
      = ((nameDigest table fields).toList.map fun c => (utf8EncodeChar c).length).sum := by
        rw [← Text.length_utf8, utf8_eq_flatMap, List.length_flatMap]
    _ = ((nameDigest table fields).toList.map fun _ => 1).sum := by rw [List.map_congr_left single]
    _ = digestDigits := by rw [List.map_const', List.sum_replicate_nat, length_nameDigest, mul_one]

/-- a name is what fits of the part it shows, and the digits -/
theorem name_eq : ∃ head, name use table fields = head ++ "_" ++ nameDigest table fields ∧
    LongestWithin (maxNameBytes - digestDigits - 1) (shownPart use table fields) head := by
  obtain ⟨head, cutting, longest⟩ := cut?_longest (maxNameBytes - digestDigits - 1) (shownPart use table fields)
  exact ⟨head, by rw [name, cutting, Option.getD_some], longest⟩

/-- **Names are cut where a character ends, as far behind as their bound allows.**  For every text and every number of
bytes, the steps back to a boundary stay in the text, and what they leave is the longest beginning of the text, whole
characters all, that fits.  So for every use, table and list of fields, of whatever characters, a name is the longest
beginning of what it shows that fits into 23 bytes, an underscore and the six hexadecimal digits of a digest over the
table and all fields; it takes 30 bytes at most. -/
theorem names_bounded (room : Nat) (s : String) :
    (∃ t, cut? room s = some t) ∧ (∀ t, cut? room s = some t ↔ LongestWithin room s t) ∧
    ∃ head digits, name use table fields = head ++ "_" ++ digits ∧
      LongestWithin 23 (use ++ "_" ++ firstChars 11 table ++ "_" ++ firstChars 7 (fields.headD "")) head ∧
      digits = firstChars 6
        (Text.hexOfBytes (Digest.sha256 (Text.utf8 (table ++ ";" ++ ";".intercalate fields)))) ∧
      digits.toList.length = 6 ∧ (∀ c ∈ digits.toList, ∃ n < 16, c = Text.hexDigit n) ∧
      (name use table fields).utf8ByteSize ≤ 30 := by
  obtain ⟨left, cutting, most⟩ := cut?_longest room s
  refine ⟨⟨left, cutting⟩, fun t => ⟨fun other => ?_, fun longest => ?_⟩, ?_⟩
  · obtain rfl := Option.some.inj (cutting.symm.trans other)
    exact most
  · rw [cutting, most.unique longest]
  · obtain ⟨head, named, longest⟩ := name_eq use table fields
    refine ⟨head, nameDigest table fields, named, longest, rfl, length_nameDigest table fields,
      fun c hc => hex_of_mem_nameDigest table fields hc, ?_⟩
    have fits : head.utf8ByteSize ≤ 23 := longest.fits
    have underscore : "_".utf8ByteSize = 1 := rfl
    have digits : (nameDigest table fields).utf8ByteSize = 6 := utf8ByteSize_nameDigest table fields
    rw [named, String.utf8ByteSize_append, String.utf8ByteSize_append]
    omega

end Tabula.Schema
