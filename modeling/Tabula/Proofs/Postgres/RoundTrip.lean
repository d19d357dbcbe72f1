import Tabula.Postgres.Decode
import Tabula.Proofs.Postgres.Binary
/-!
# Cells read back

A value that is native to a type, such as a text to `varchar` or a number to `int2`, is read back from the cell that is
bound for it.  `Native` is the table of these types, and `Suits` adds the lists of their values and nulls for arrays.  An
array is read element by element: each is behind its length, which is negative for a null, so reading knows where the
next begins.
-/

namespace Tabula.Postgres

open Parameter

/-! ## Types and their values -/

/-- whether a value is one of the type's own -/
inductive Native : ColumnType → Value → Prop where
  | bool (b : Bool) : Native .bool (.bool b)
  | int2 (i : Int64) : Native .int2 (.int i)
  | int4 (i : Int64) : Native .int4 (.int i)
  | int8 (i : Int64) : Native .int8 (.int i)
  | text (s : String) : Native .text (.string s)
  | varchar (s : String) : Native .varchar (.string s)
  | bpchar (s : String) : Native .bpchar (.string s)
  | name (s : String) : Native .name (.string s)
  | bytes (b : Bytes) : Native .bytea (.bytes b)
  | uuid (u : Uuid) : Native .uuid (.uuid u)

/-- whether a value is one of the type's own, or the type is an array and the value a list of its elements' own values
and nulls -/
inductive Suits : ColumnType → Value → Prop where
  | scalar {t : ColumnType} {v : Value} (own : Native t v) : Suits t v
  | list {t : ColumnType} {items : List Value} (elements : t ∈ [.bool, .int2, .int4, .int8, .text, .varchar, .uuid])
      (own : ∀ v ∈ items, v = .null ∨ Native t v) : Suits (.array t) (.list items)

/-- whether a number is in the range of its type, or every number in a list -/
def InRange : ColumnType → Value → Prop
  | .int2, .int i => -2 ^ 15 ≤ i.toInt ∧ i.toInt < 2 ^ 15
  | .int4, .int i => -2 ^ 31 ≤ i.toInt ∧ i.toInt < 2 ^ 31
  | .array t, .list items => ∀ v ∈ items, InRange t v
  | _, _ => True

/-- whether the elements of a list, and the bytes of each text among them, are fewer than 32 bits with a sign count -/
def Countable : Value → Prop
  | .list items => items.length < 2 ^ 31 ∧ ∀ s, .string s ∈ items → s.utf8ByteSize < 2 ^ 31
  | _ => True

variable {t : ColumnType} {v : Value} {b rest : Bytes} {items : List Value} {cells : List Cell}

/-! ## Single values -/

theorem int_isSome {width : Nat} {i : Int} {low high : Int} (lower : low = -(Nat.pow 2 (8 * width - 1) : Int))
    (upper : high = (Nat.pow 2 (8 * width - 1) : Int)) : (word? width i).isSome ↔ low ≤ i ∧ i < high := by
  subst lower upper
  rw [word?, ← Text.fitsSigned_iff]
  split <;> simp_all

/-- a value of the type's own has a form, but a number only if it is in range -/
theorem Native.isSome (own : Native t v) : (Parameter.scalar? t v).isSome ↔ InRange t v := by
  cases own with
  | int2 i => exact int_isSome rfl rfl
  | int4 i => exact int_isSome rfl rfl
  | int8 i => exact iff_of_true (by simp [Parameter.scalar?, int?, word?, fitsSigned_toInt]) trivial
  | _ => exact iff_of_true rfl trivial

theorem read_word {width : Nat} {i : Int64} (some_ : 0 < width) (form : word? width i.toInt = some b) :
    (intOfBytes? width b).map (fun n => Value.int (Int64.ofInt n)) = some (.int i) := by
  unfold word? at form
  split at form
  · next fits =>
    cases form
    rw [intOfBytes?_intBytes fits some_, Option.map_some, Int64.ofInt_toInt]
  · cases form

/-- it is read back from its form -/
theorem Native.read (own : Native t v) (form : Parameter.scalar? t v = some b) : Cell.scalar? t b = some v := by
  cases own with
  | bool c =>
    cases form
    cases c <;> rfl
  | int2 i | int4 i | int8 i => exact read_word (by decide) form
  | bytes c =>
    cases form
    rfl
  | uuid u =>
    cases form
    exact congrArg (Option.map Value.uuid) (Uuid.ofBytes?_toBytes u)
  | text s | varchar s | bpchar s | name s =>
    cases form
    exact congrArg (Option.map Value.string) (Text.ofUtf8?_utf8 s)

/-! ## Arrays -/

/-- whether a cell, of a length that can be told, is read as a value -/
inductive Reads (t : ColumnType) : Cell → Value → Prop where
  | null : Reads t none .null
  | value {b : Bytes} {v : Value} (short : b.length < 2 ^ 31) (read : Cell.scalar? t b = some v) : Reads t (some b) v

theorem items_flatMap (reads : List.Forall₂ (Reads t) cells items) :
    Cell.items? t cells.length (cells.flatMap sized) = some items := by
  induction reads with
  | nil => rfl
  | @cons cell v cells items first later ih =>
    rw [List.length_cons, List.flatMap_cons, Cell.items?]
    cases first with
    | null =>
      have length : takeInt? 4 (intBytes 4 (-1) ++ cells.flatMap sized) = some (-1, cells.flatMap sized) :=
        takeInt?_intBytes (by decide) (by decide) _
      simp only [sized, length, Option.bind_eq_bind, Option.bind_some, ih]
      rfl
    | @value b v short read =>
      have length : takeInt? 4 (sized (some b) ++ cells.flatMap sized) =
          some ((b.length : Int), b ++ cells.flatMap sized) := by
        rw [sized, List.append_assoc]
        exact takeInt?_count short _
      have own : splitBytes? (b.length : Int).toNat (b ++ cells.flatMap sized) = some (b, cells.flatMap sized) := by
        rw [Int.toNat_natCast]
        exact splitBytes?_append b _
      have positive : ¬ (b.length : Int) < 0 := by omega
      simp only [length, Option.bind_eq_bind, Option.bind_some, if_neg positive, own, read, ih]
      rfl

/-- an array of one dimension: the number of dimensions, whether there are nulls, the type, the number of elements and
of the first of them, and the elements -/
theorem array_of_parts {nulls first : Int} {number n : Nat} {b₁ b₂ b₃ b₄ b₅ : Bytes} (h₁ : takeInt? 4 b = some (1, b₁))
    (h₂ : takeInt? 4 b₁ = some (nulls, b₂)) (h₃ : takeNat? 4 b₂ = some (number, b₃))
    (h₄ : takeInt? 4 b₃ = some ((n : Int), b₄)) (h₅ : takeInt? 4 b₄ = some (first, b₅))
    (read : Cell.items? t n b₅ = some items) : Cell.array? t b = some items := by
  have positive : ¬ (n : Int) < 0 := by omega
  simp only [Cell.array?, h₁, h₂, h₃, h₄, h₅, Option.bind_eq_bind, Option.bind_some, if_neg positive, Int.toNat_natCast,
    read]

/-- an array is read element by element -/
theorem array_arrayBytes (t : ColumnType) (reads : List.Forall₂ (Reads t) cells items) (few : cells.length < 2 ^ 31) :
    Cell.array? t (arrayBytes t cells) = some items := by
  have one (rest : Bytes) : takeInt? 4 (natBytes 4 1 ++ rest) = some (1, rest) := takeInt?_count (by omega) rest
  have flag : (if cells.any Option.isNone then 1 else 0) < 2 ^ 31 := by split <;> omega
  simp only [arrayBytes, List.append_assoc]
  exact array_of_parts (one _) (takeInt?_count flag _) (takeNat?_natBytes 4 t.number _) (takeInt?_count few _) (one _)
    (items_flatMap reads)

/-! ## Lists of values -/

/-- an element is a null, or a value of the type's own in its form -/
theorem element_cases {cell : Cell} (own : v = .null ∨ Native t v) (form : element? t v = some cell) :
    (v = .null ∧ cell = none) ∨ ∃ b, cell = some b ∧ Native t v ∧ Parameter.scalar? t v = some b := by
  rcases own with rfl | own
  · cases form
    exact .inl ⟨rfl, rfl⟩
  · have there : v.isNull = false := by cases own <;> rfl
    simp only [element?, there, Bool.false_eq_true, if_false, Option.map_eq_some_iff] at form
    obtain ⟨b, form, rfl⟩ := form
    exact .inr ⟨b, rfl, own, form⟩

theorem inRange_null (t : ColumnType) : InRange t .null := by cases t <;> trivial

theorem exists_element (own : v = .null ∨ Native t v) : (∃ cell, element? t v = some cell) ↔ InRange t v := by
  rcases own with rfl | own
  · exact iff_of_true ⟨none, rfl⟩ (inRange_null t)
  · have there : v.isNull = false := by cases own <;> rfl
    rw [← own.isSome, Option.isSome_iff_exists]
    simp [element?, there]

theorem exists_elements (own : ∀ v ∈ items, v = .null ∨ Native t v) :
    (∃ cells, items.mapM (element? t) = some cells) ↔ ∀ v ∈ items, InRange t v := by
  induction items with
  | nil => exact iff_of_true ⟨[], rfl⟩ nofun
  | cons v rest ih =>
    obtain ⟨first, later⟩ := List.forall_mem_cons.mp own
    rw [List.forall_mem_cons, ← ih later, ← exists_element first]
    simp only [mapM_some_iff, List.forall₂_cons_left_iff]
    constructor
    · rintro ⟨_, cell, cells, head, tail, rfl⟩
      exact ⟨⟨cell, head⟩, cells, tail⟩
    · rintro ⟨⟨cell, head⟩, cells, tail⟩
      exact ⟨_, cell, cells, head, tail, rfl⟩

/-- of the elements, only texts can be too long -/
theorem Native.short_iff (own : Native t v) (plain : t ≠ .bytea) (form : Parameter.scalar? t v = some b) :
    b.length < 2 ^ 31 ↔ ∀ s, v = .string s → s.utf8ByteSize < 2 ^ 31 := by
  have word {width : Nat} {i : Int} (few : width < 2 ^ 31) (form : word? width i = some b) : b.length < 2 ^ 31 := by
    unfold word? at form
    split at form
    · cases form
      rwa [length_intBytes]
    · cases form
  cases own with
  | bool c =>
    cases form
    exact iff_of_true (by cases c <;> decide) nofun
  | int2 i | int4 i | int8 i => exact iff_of_true (word (by omega) form) nofun
  | bytes c => exact absurd rfl plain
  | uuid u =>
    cases form
    refine iff_of_true ?_ nofun
    have size : u.toBytes.length = 16 := u.bytes.size_toArray
    omega
  | text s | varchar s | bpchar s | name s =>
    cases form
    rw [Text.length_utf8]
    exact ⟨fun short _ same => Value.string.inj same ▸ short, fun short => short s rfl⟩

theorem isCounted_iff : isCounted cells = true ↔ cells.length < 2 ^ 31 ∧ ∀ b, some b ∈ cells → b.length < 2 ^ 31 := by
  simp only [isCounted, Nat.pow_eq, Bool.and_eq_true, decide_eq_true_eq, List.all_eq_true]
  refine and_congr_right fun _ => ⟨fun all b hb => by simpa using all (some b) hb, fun all c hc => ?_⟩
  cases c with
  | none => rfl
  | some b => simpa using all b hc

theorem countable_iff (plain : t ≠ .bytea) (own : ∀ v ∈ items, v = .null ∨ Native t v)
    (forms : items.mapM (element? t) = some cells) : isCounted cells = true ↔ Countable (.list items) := by
  have each := mapM_some_iff.mp forms
  rw [isCounted_iff, Countable, each.length_eq]
  refine and_congr_right fun few => ?_
  clear forms few
  induction each with
  | nil => exact iff_of_true nofun nofun
  | @cons v cell items cells first later ih =>
    obtain ⟨head, tail⟩ := List.forall_mem_cons.mp own
    have here : (∀ b, some b = cell → b.length < 2 ^ 31) ↔ ∀ s, .string s = v → s.utf8ByteSize < 2 ^ 31 := by
      obtain ⟨rfl, rfl⟩ | ⟨b, rfl, native, form⟩ := element_cases head first
      · exact iff_of_true nofun nofun
      · have short := native.short_iff plain form
        simp only [eq_comm (a := Value.string _)] at short ⊢
        rw [← short]
        exact ⟨fun all => all b rfl, fun short _ same => Option.some.inj same ▸ short⟩
    simp only [List.mem_cons, or_imp, forall_and]
    rw [here, ih tail]

theorem reads_of_elements (own : ∀ v ∈ items, v = .null ∨ Native t v) (forms : items.mapM (element? t) = some cells)
    (counted : isCounted cells = true) : List.Forall₂ (Reads t) cells items := by
  have each := mapM_some_iff.mp forms
  have short := (isCounted_iff.mp counted).2
  clear forms counted
  induction each with
  | nil => exact .nil
  | @cons v cell items cells first later ih =>
    obtain ⟨head, tail⟩ := List.forall_mem_cons.mp own
    refine .cons ?_ (ih tail fun b hb => short b (List.mem_cons_of_mem _ hb))
    obtain ⟨rfl, rfl⟩ | ⟨b, rfl, native, form⟩ := element_cases head first
    · exact .null
    · exact .value (short b List.mem_cons_self) (native.read form)

/-! ## Binding and reading -/

theorem Native.bind?_eq (own : Native t v) : bind? t v = (Parameter.scalar? t v).map some := by
  cases own <;> rfl

theorem bind?_list {cell : Cell} : bind? (.array t) (.list items) = some cell ↔
    ∃ cells, items.mapM (element? t) = some cells ∧ isCounted cells = true ∧ cell = some (arrayBytes t cells) := by
  show (items.mapM (element? t)).bind _ = some cell ↔ _
  simp only [Option.bind_eq_some_iff]
  refine exists_congr fun cells => and_congr_right fun _ => ?_
  split
  · next counted => exact ⟨fun same => ⟨counted, (Option.some.inj same).symm⟩, fun h => congrArg some h.2.symm⟩
  · next uncounted => exact iff_of_false nofun fun h => uncounted h.1

/-- a value that suits is bound if its numbers are in range and a list can be counted -/
theorem Suits.bind_isSome (suits : Suits t v) : (bind? t v).isSome ↔ InRange t v ∧ Countable v := by
  cases suits with
  | scalar own =>
    have plain : Countable v := by cases own <;> trivial
    rw [own.bind?_eq, Option.isSome_map, own.isSome, and_iff_left plain]
  | @list t items elements own =>
    have plain : t ≠ .bytea := by
      rintro rfl
      simp at elements
    rw [Option.isSome_iff_exists]
    simp only [bind?_list]
    constructor
    · rintro ⟨_, cells, forms, counted, rfl⟩
      exact ⟨(exists_elements own).mp ⟨cells, forms⟩, (countable_iff plain own forms).mp counted⟩
    · rintro ⟨range, count⟩
      obtain ⟨cells, forms⟩ := (exists_elements own).mpr range
      exact ⟨_, cells, forms, (countable_iff plain own forms).mpr count, rfl⟩

/-- what is bound for it is read as the same value -/
theorem Suits.decode {cell : Cell} (suits : Suits t v) (bound : bind? t v = some cell) :
    Cell.decode t cell = .ok v := by
  cases suits with
  | scalar own =>
    rw [own.bind?_eq, Option.map_eq_some_iff] at bound
    obtain ⟨b, form, rfl⟩ := bound
    have read := own.read form
    cases own <;> simp only [Cell.decode, Cell.isReadable, Bool.not_true, Bool.false_eq_true, if_false, read]
  | @list t items elements own =>
    obtain ⟨cells, forms, counted, rfl⟩ := bind?_list.mp bound
    have readable : Cell.isReadable (.array t) = true := by
      simp only [List.mem_cons, List.not_mem_nil, or_false] at elements
      rcases elements with rfl | rfl | rfl | rfl | rfl | rfl | rfl <;> rfl
    have read := array_arrayBytes t (reads_of_elements own forms counted) (isCounted_iff.mp counted).1
    simp only [Cell.decode, readable, Bool.not_true, Bool.false_eq_true, if_false, read, Option.map_some]

/-- **A value is read back from the cell that is bound for it.**  A value of the type's own, or a list of such values and
nulls for an array, is bound just if every number in it is in the range of its type and a list can be counted in 32
bits, and the cell is read as the same value, with each element and null in its place.  Null is bound as the null of SQL
for every type, which is read as null if cells of the type can be read at all. -/
theorem bind_decode (suits : Suits t v) :
    ((bind? t v).isSome ↔ InRange t v ∧ Countable v) ∧
    (∀ cell, bind? t v = some cell → Cell.decode t cell = .ok v) ∧
    ∀ t, bind? t .null = some none ∧
      Cell.decode t none = if Cell.isReadable t then .ok .null else .error .unsupported := by
  refine ⟨suits.bind_isSome, fun cell bound => suits.decode bound, fun t => ⟨?_, ?_⟩⟩
  · cases t <;> rfl
  · unfold Cell.decode
    cases Cell.isReadable t <;> rfl

/-- numbers and a null in an array of small numbers -/
theorem bind_decode_numbers :
    let v : Value := .list [.int 32767, .null, .int (-32768)]
    (∃ cell, bind? (.array .int2) v = some cell ∧ Cell.decode (.array .int2) cell = .ok v) ∧
      (bind? (.array .int2) (.list [.int 32768])).isSome = false := by
  intro v
  have suits : Suits (.array .int2) v := by
    refine .list (by decide) fun x hx => ?_
    simp only [List.mem_cons, List.not_mem_nil, or_false] at hx
    rcases hx with rfl | rfl | rfl
    · exact .inr (.int2 _)
    · exact .inl rfl
    · exact .inr (.int2 _)
  have beyond : Suits (.array .int2) (.list [.int 32768]) :=
    .list (by decide) fun x hx => .inr (List.mem_singleton.mp hx ▸ .int2 _)
  have bound : (bind? (.array .int2) v).isSome := by decide +kernel
  obtain ⟨cell, bound⟩ := Option.isSome_iff_exists.mp bound
  refine ⟨⟨cell, bound, (bind_decode suits).2.1 cell bound⟩, Bool.eq_false_iff.mpr fun fits => ?_⟩
  have range := ((bind_decode beyond).1.mp fits).1 _ List.mem_cons_self
  exact absurd range.2 (by decide)

/-- a null in a column of a type that is not supported cannot be read, and a list that 32 bits cannot count cannot be
bound -/
theorem bind_decode_limits :
    bind? (.other "inet") .null = some none ∧ Cell.decode (.other "inet") none = .error .unsupported ∧
      Suits (.array .bool) (.list (List.replicate (2 ^ 31) .null)) ∧
      bind? (.array .bool) (.list (List.replicate (2 ^ 31) .null)) = none := by
  have suits : Suits (.array .bool) (.list (List.replicate (2 ^ 31) .null)) :=
    .list (by decide) fun x hx => .inl (List.eq_of_mem_replicate hx)
  refine ⟨rfl, rfl, suits, Option.isNone_iff_eq_none.mp ?_⟩
  rw [← Option.not_isSome, Bool.not_eq_true', Bool.eq_false_iff, ne_eq, suits.bind_isSome]
  rintro ⟨_, few, _⟩
  rw [List.length_replicate] at few
  exact absurd few (lt_irrefl _)

end Tabula.Postgres
