import Mathlib.Data.List.Basic
import Mathlib.Data.List.TakeWhile
import Tabula.Proofs.Value.Equality
/-!
# Equal values and their texts

Equality compares numbers by value; the text of a number shows its representation as well, the places of a decimal number
and the sign of a zero.  `Value.eq_of_same_of_text`: two equal values with one text are the very same, numbers inside
documents and lists included.
-/

namespace Tabula

/-! ## Texts in front of others -/

section Texts

variable {α : Type} {text : α → List Char} {sep s t x y : List Char}

/-- texts without a character that what follows them begins with -/
theorem append_inj_of_stop {stop : Char → Bool} (hs : ∀ c ∈ s, stop c = false) (ht : ∀ c ∈ t, stop c = false)
    (hx : x.head?.any stop = true) (hy : y.head?.any stop = true) (h : s ++ x = t ++ y) : s = t := by
  have front : ∀ {s x : List Char}, (∀ c ∈ s, stop c = false) → x.head?.any stop = true →
      (s ++ x).takeWhile (!stop ·) = s := by
    intro s x hs hx
    have passes : ∀ c ∈ s, (!stop c) = true := fun c hc => by rw [hs c hc]; rfl
    rw [List.takeWhile_append_of_pos passes]
    cases x with
    | nil => cases hx
    | cons c rest =>
      have stops : stop c = true := hx
      rw [List.takeWhile_cons, stops]
      exact List.append_nil s
  rw [← front hs hx, ← front ht hy, h]

/-- items that their texts tell apart wherever one stops are told apart by their texts with separators between them -/
theorem eq_of_intercalate (Stop : List Char → Prop) (separates : ∀ s, Stop (sep ++ s)) {vs ws : List α}
    (each : List.Forall₂ (fun v w => ∀ x y, Stop x → Stop y → text v ++ x = text w ++ y → v = w) vs ws)
    (hx : Stop x) (hy : Stop y)
    (h : sep.intercalate (vs.map text) ++ x = sep.intercalate (ws.map text) ++ y) : vs = ws := by
  induction each with
  | nil => rfl
  | @cons v w vs ws first rest ih =>
    cases rest with
    | nil =>
      rw [List.map_singleton, List.map_singleton, List.intercalate_singleton, List.intercalate_singleton] at h
      rw [first x y hx hy h]
    | cons second rest =>
      simp only [List.map_cons, List.intercalate_cons_cons, List.append_assoc] at h ih
      obtain rfl := first _ _ (separates _) (separates _) h
      rw [ih (List.append_cancel_left (List.append_cancel_left h))]

end Texts

/-! ## Decimal numbers -/

namespace Decimal

variable {a b : Decimal}

/-- the digits of the mantissa, with zeros in front for the places that it does not reach -/
def shownDigits (d : Decimal) : List Char :=
  List.replicate (d.scale + 1 - (toString d.mantissa).toList.length) '0' ++ (toString d.mantissa).toList

theorem isDigit_shownDigits (d : Decimal) : ∀ c ∈ d.shownDigits, c.isDigit = true := by
  intro c hc
  rcases List.mem_append.mp hc with zero | digit
  · rw [List.eq_of_mem_replicate zero]
    rfl
  · rw [Nat.toString_eq_ofList_toDigits, String.toList_ofList] at digit
    exact Nat.isDigit_of_mem_toDigits (by decide) (by decide) digit

theorem scale_lt_length (d : Decimal) : d.scale < d.shownDigits.length := by
  rw [shownDigits, List.length_append, List.length_replicate]
  omega

/-- the digits with the point in front of the places -/
def shownBody (d : Decimal) : List Char :=
  if d.scale = 0 then d.shownDigits
  else d.shownDigits.take (d.shownDigits.length - d.scale) ++
    '.' :: d.shownDigits.drop (d.shownDigits.length - d.scale)

theorem toList_text (d : Decimal) : d.text.toList = (if d.negative then ['-'] else []) ++ d.shownBody := by
  have body : (if d.scale = 0 then String.ofList d.shownDigits
      else String.ofList (d.shownDigits.take (d.shownDigits.length - d.scale) ++
        '.' :: d.shownDigits.drop (d.shownDigits.length - d.scale))) = String.ofList d.shownBody := by
    unfold shownBody
    split <;> rfl
  have text : d.text = if d.negative then "-" ++ String.ofList d.shownBody else String.ofList d.shownBody := by
    rw [← body]
    rfl
  rw [text]
  cases d.negative <;> simp

theorem not_isDigit_point {c : Char} (h : c.isDigit = true) : (c != '.') = true := by
  rw [bne_iff_ne]
  rintro rfl
  cases h

/-- the point stands in front of as many digits as there are places -/
theorem length_dropWhile_shownBody (d : Decimal) :
    (d.shownBody.dropWhile (· != '.')).length = if d.scale = 0 then 0 else d.scale + 1 := by
  have digits := d.isDigit_shownDigits
  unfold shownBody
  split
  · rw [List.dropWhile_eq_nil_iff.mpr fun c hc => not_isDigit_point (digits c hc)]
    rfl
  · have whole : ∀ c ∈ d.shownDigits.take (d.shownDigits.length - d.scale), (c != '.') = true :=
      fun c hc => not_isDigit_point (digits c (List.mem_of_mem_take hc))
    have room := d.scale_lt_length
    rw [List.dropWhile_append_of_pos whole, List.dropWhile_cons_of_neg (by simp), List.length_cons, List.length_drop]
    omega

theorem head_shownBody (d : Decimal) : d.shownBody.head? ≠ some '-' := by
  have digits := d.isDigit_shownDigits
  have room := d.scale_lt_length
  cases shown : d.shownDigits with
  | nil => simp [shown] at room
  | cons c rest =>
    have digit : c.isDigit = true := digits c (by simp [shown])
    have other : c ≠ '-' := by
      rintro rfl
      cases digit
    have first : d.shownBody.head? = some c := by
      unfold shownBody
      split
      · rw [shown, List.head?_cons]
      · rw [shown] at room ⊢
        obtain ⟨n, more⟩ : ∃ n, (c :: rest).length - d.scale = n + 1 := ⟨(c :: rest).length - d.scale - 1, by omega⟩
        rw [more, List.take_succ_cons, List.cons_append, List.head?_cons]
    rw [first]
    simpa using other

/-- **A decimal number is told by its text from all equal ones.** -/
theorem eq_of_same_of_text (h : a.same b = true) (text : a.text = b.text) : a = b := by
  have shown : (if a.negative then ['-'] else []) ++ a.shownBody = (if b.negative then ['-'] else []) ++ b.shownBody := by
    rw [← toList_text, ← toList_text, text]
  have sign : a.negative = b.negative := by
    have first := congrArg List.head? shown
    cases hn : a.negative <;> cases hn' : b.negative <;> simp [hn, hn'] at first ⊢
    · exact a.head_shownBody first
    · exact b.head_shownBody first.symm
  have scale : a.scale = b.scale := by
    rw [sign] at shown
    have places := congrArg (fun s => (s.dropWhile (· != '.')).length) (List.append_cancel_left shown)
    simp only [length_dropWhile_shownBody] at places
    split at places <;> split at places <;> omega
  have mantissa : a.mantissa = b.mantissa := by
    have scaled := (same_iff.mp h).1
    rw [scale] at scaled
    exact Nat.eq_of_mul_eq_mul_right (pow_pos b.scale) scaled
  cases a
  cases b
  simp_all

/-- no comma and no bracket stands in a decimal number -/
theorem not_closing_text (d : Decimal) : ∀ c ∈ d.text.toList, (c == ',' || c == ')') = false := by
  have digit : ∀ c : Char, c.isDigit = true → (c == ',' || c == ')') = false := by
    intro c hc
    by_contra closing
    simp only [Bool.not_eq_false, Bool.or_eq_true, beq_iff_eq] at closing
    rcases closing with rfl | rfl <;> cases hc
  intro c hc
  rw [toList_text] at hc
  rcases List.mem_append.mp hc with sign | body
  · cases hn : d.negative <;> simp [hn] at sign
    rw [sign]
    rfl
  · unfold shownBody at body
    split at body
    · exact digit c (d.isDigit_shownDigits c body)
    · rcases List.mem_append.mp body with whole | place
      · exact digit c (d.isDigit_shownDigits c (List.mem_of_mem_take whole))
      · rcases List.mem_cons.mp place with rfl | place
        · rfl
        · exact digit c (d.isDigit_shownDigits c (List.mem_of_mem_drop place))

end Decimal

/-! ## Floating-point numbers -/

namespace Double

variable {a b : Double}

/-- the sign tells the two zeros apart -/
theorem eq_of_isZero (ha : a.isZero = true) (hb : b.isZero = true) (sign : a.isNegative = b.isNegative) : a = b := by
  have weight : BinaryFormat.double.signWeight = 9223372036854775808 := by decide
  simp only [isZero, magnitude, isNegative, weight, decide_eq_true_eq, decide_eq_decide] at ha hb sign
  have boundA := a.bits.toNat_lt
  have boundB := b.bits.toNat_lt
  have bits : a.bits.toNat = b.bits.toNat := by omega
  cases a
  cases b
  simpa using UInt64.toNat_inj.mp bits

theorem text_of_isZero {style : FloatStyle} (h : a.isZero = true) :
    style.text a = (if a.isNegative then "-" else "") ++ if style.keepsPoint then "0.0" else "0" := by
  have zero : a.magnitude = 0 := by simpa [isZero] using h
  have number : a.isNaN = false := by
    rw [isNaN, zero]
    rfl
  have finite : a.isInfinite = false := by
    rw [isInfinite, zero]
    decide
  rw [FloatStyle.text, number, finite, h]
  cases a.isNegative <;> simp

/-- **A floating-point number is told by its text from all equal ones**, whatever stands behind it. -/
theorem eq_of_same_of_text {style : FloatStyle} {x y : List Char} (h : a.same b = true)
    (text : (style.text a).toList ++ x = (style.text b).toList ++ y) : a = b := by
  obtain ⟨_, _, equal | ⟨za, zb⟩⟩ := same_iff.mp h
  · exact equal
  · refine eq_of_isZero za zb ?_
    rw [text_of_isZero za, text_of_isZero zb] at text
    cases hn : a.isNegative <;> cases hn' : b.isNegative <;> cases hp : style.keepsPoint <;>
      simp [hn, hn', hp] at text ⊢

end Double

/-! ## Documents -/

namespace Json

theorem itemTexts_eq (xs : List Json) : itemTexts xs = xs.map text := by
  induction xs with
  | nil => rfl
  | cons x xs ih => rw [itemTexts, ih, List.map_cons]

theorem memberTexts_eq (xs : List (String × Json)) : memberTexts xs = xs.map fun m => quoted m.1 ++ ":" ++ m.2.text := by
  induction xs with
  | nil => rfl
  | cons x xs ih => rw [memberTexts, ih, List.map_cons]

mutual

/-- **A document is told by its text from all equal ones**, whatever stands behind it. -/
theorem eq_of_same_of_text (a b : Json) (h : a.same b = true) (x y : List Char)
    (shown : a.text.toList ++ x = b.text.toList ++ y) : a = b := by
  cases a <;> cases b <;> simp only [same, Bool.false_eq_true] at h
  case null.null => rfl
  case float.float => exact congrArg float (Double.eq_of_same_of_text h shown)
  case arr.arr xs ys =>
    simp only [text, itemTexts_eq, String.toList_append, String.toList_intercalate, List.map_map, List.append_assoc]
      at shown
    have items := List.append_cancel_left shown
    exact congrArg arr (eq_of_intercalate (fun _ => True) (fun _ => trivial) (sameItems_told xs ys h) trivial trivial
      items)
  case obj.obj xs ys =>
    simp only [text, memberTexts_eq, String.toList_append, String.toList_intercalate, List.map_map, List.append_assoc]
      at shown
    have members := List.append_cancel_left shown
    exact congrArg obj (eq_of_intercalate (fun _ => True) (fun _ => trivial) (sameMembers_told xs ys h) trivial trivial
      members)
  all_goals rw [eq_of_beq h]
termination_by structural a

theorem sameItems_told (xs ys : List Json) (h : sameItems xs ys = true) :
    List.Forall₂ (fun v w => ∀ x y, True → True →
      (String.toList ∘ text) v ++ x = (String.toList ∘ text) w ++ y → v = w) xs ys := by
  cases xs <;> cases ys <;> simp only [sameItems, Bool.false_eq_true, Bool.and_eq_true] at h
  case nil.nil => exact .nil
  case cons.cons x xs y ys =>
    exact .cons (fun s t _ _ shown => eq_of_same_of_text x y h.1 s t shown) (sameItems_told xs ys h.2)
termination_by structural xs

theorem sameMembers_told (xs ys : List (String × Json)) (h : sameMembers xs ys = true) :
    List.Forall₂ (fun v w => ∀ x y, True → True →
      (String.toList ∘ fun m : String × Json => quoted m.1 ++ ":" ++ m.2.text) v ++ x =
        (String.toList ∘ fun m : String × Json => quoted m.1 ++ ":" ++ m.2.text) w ++ y → v = w) xs ys := by
  cases xs <;> cases ys <;> simp only [sameMembers, Bool.false_eq_true, Bool.and_eq_true] at h
  case nil.nil => exact .nil
  case cons.cons x xs y ys =>
    refine .cons (fun s t _ _ shown => ?_) (sameMembers_told xs ys h.2)
    have name : x.1 = y.1 := eq_of_beq h.1.1
    simp only [Function.comp_apply, name, String.toList_append, List.append_assoc] at shown
    have behind := List.append_cancel_left (List.append_cancel_left shown)
    exact Prod.ext name (eq_of_same_of_text x.2 y.2 h.1.2 s t behind)
termination_by structural xs

end

end Json

/-! ## Values -/

namespace Value

/-- whether a text goes on as behind an item of a list -/
def Closes (x : List Char) : Prop := x.head?.any (fun c => c == ',' || c == ')') = true

theorem itemTexts_eq (xs : List Value) : itemTexts xs = xs.map text := by
  induction xs with
  | nil => rfl
  | cons x xs ih => rw [itemTexts, ih, List.map_cons]

mutual

/-- equal values are told apart by their texts in front of what closes an item -/
theorem eq_of_same_of_shown (a b : Value) (h : a.same b = true) (x y : List Char) (hx : Closes x) (hy : Closes y)
    (shown : a.text.toList ++ x = b.text.toList ++ y) : a = b := by
  cases a <;> cases b <;> simp only [same, Bool.false_eq_true] at h
  case null.null => rfl
  case float.float => exact congrArg float (Double.eq_of_same_of_text h shown)
  case decimal.decimal d e =>
    have text : d.text.toList = e.text.toList :=
      append_inj_of_stop d.not_closing_text e.not_closing_text hx hy shown
    exact congrArg decimal (Decimal.eq_of_same_of_text h (String.toList_inj.mp text))
  case json.json i j => exact congrArg json (Json.eq_of_same_of_text i j h x y shown)
  case list.list xs ys =>
    simp only [text, itemTexts_eq, String.toList_append, String.toList_intercalate, List.map_map, List.append_assoc]
      at shown
    have items := List.append_cancel_left shown
    have separates : ∀ s, Closes (", ".toList ++ s) := fun _ => rfl
    have closed : ∀ s, Closes (")".toList ++ s) := fun _ => rfl
    exact congrArg list (eq_of_intercalate Closes separates (sameItems_told xs ys h) (closed x) (closed y) items)
  all_goals rw [eq_of_beq h]
termination_by structural a

theorem sameItems_told (xs ys : List Value) (h : sameItems xs ys = true) :
    List.Forall₂ (fun v w => ∀ x y, Closes x → Closes y →
      (String.toList ∘ text) v ++ x = (String.toList ∘ text) w ++ y → v = w) xs ys := by
  cases xs <;> cases ys <;> simp only [sameItems, Bool.false_eq_true, Bool.and_eq_true] at h
  case nil.nil => exact .nil
  case cons.cons x xs y ys =>
    exact .cons (fun s t hs ht shown => eq_of_same_of_shown x y h.1 s t hs ht shown) (sameItems_told xs ys h.2)
termination_by structural xs

end

/-- **Two equal values with one text are the very same.** -/
theorem eq_of_same_of_text {a b : Value} (h : a.same b = true) (shown : a.text = b.text) : a = b :=
  eq_of_same_of_shown a b h [')'] [')'] rfl rfl (by rw [shown])

end Value

end Tabula
