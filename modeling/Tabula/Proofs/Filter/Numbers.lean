import Mathlib.Algebra.Order.Ring.Unbundled.Rat
import Tabula.Proofs.Filter.Keys
import Tabula.Proofs.Filter.Opposites
/-!
# Numbers in tests of documents

A test at the end of a path binds its argument as a document.  A database compares two numbers in documents by magnitude
and sets every number above every text, so that it matters what becomes of the argument.
`PathFilter.numeric_tests`: whole and floating-point numbers are bound as numbers of their value, and a stored number is
compared with them by magnitude; an exact decimal number is bound as its text, and every stored number is above it.
-/

namespace Tabula

open Sql (Condition Operand Operator Sense Truth)

/-! ## Numbers -/

/-- the number that a value is; floating-point numbers have the value that a database reads in their texts -/
def Value.number? (size : Double → Rat) : Value → Option Rat
  | int i => some (i.toInt : Rat)
  | float d => if d.isFinite then some (size d) else none
  | decimal d => some d.toRat
  | _ => none

/-- whether a value is an exact decimal number -/
def Value.isDecimal : Value → Bool
  | decimal _ => true
  | _ => false

namespace Json

/-- the number that a document is -/
def number? (size : Double → Rat) : Json → Option Rat
  | int i => some (i : Rat)
  | float d => some (size d)
  | _ => none

/-- how a number in a document stands to another one or to a text: by magnitude, and above every text -/
def standing? (size : Double → Rat) (i j : Json) : Option Ordering :=
  match j with
  | str _ => (i.number? size).map fun _ => .gt
  | j => do return compareOfLessAndEq (← i.number? size) (← j.number? size)

end Json

namespace Sql

/-- whether an operator compares by the order of its operands -/
def Operator.isOrder : Operator → Bool
  | equal | unequal | greater | atLeast | less | atMost => true
  | _ => false

/-- whether an operator accepts operands that stand in an order -/
def Operator.accepts (o : Ordering) : Operator → Bool
  | equal => o == .eq
  | unequal => o != .eq
  | greater => o == .gt
  | atLeast => o != .lt
  | less => o == .lt
  | atMost => o != .gt
  | _ => false

/-- what a database promises of numbers in documents: they are compared with numbers and with texts as they stand to
them, and a list has a member if one of its elements equals it -/
structure Sense.ComparesNumbers {ρ δ : Type} (sense : Sense ρ δ) (size : Double → Rat) (document : Json → δ) : Prop where
  parameter : ∀ j, sense.parameter (some (.json j)) = document j
  present : ∀ j, sense.isNull (document j) = false
  compare : ∀ op i j o, op.isOrder = true → i.standing? size j = some o →
    sense.compare op (document i) (document j) = .ofBool (op.accepts o)
  among : ∀ i (js : List Json), sense.among (document i) (sense.parameter (some (.list (js.map .json)))) =
    Truth.joined .or (js.map fun j => sense.compare .equal (document i) (document j))

end Sql

/-- the operator between the place and the argument, for a test that compares them -/
def PathTest.operator? : PathTest → Option Operator
  | exact => some .equal
  | notExact => some .unequal
  | greater => some .greater
  | atLeast => some .atLeast
  | less => some .less
  | atMost => some .atMost
  | _ => none

/-- how a stored number stands to an argument: by magnitude, but above every exact decimal number -/
def Value.standing (size : Double → Rat) (y : Rat) (v : Value) : Ordering :=
  match v.number? size with
  | some x => if v.isDecimal then .gt else compareOfLessAndEq y x
  | none => .gt

namespace Value

variable {size : Double → Rat} {v : Value} {x y : Rat} {stored : Json}

theorem isNull_of_number (h : v.number? size = some x) : v.isNull = false := by
  cases v <;> first | rfl | cases h

/-- the document of a number is the number, but for an exact decimal number it is the text -/
theorem number_toJson (h : v.number? size = some x) :
    v.toJson.number? size = (if v.isDecimal then none else some x) ∧
      (v.isDecimal = true → v.toJson = .str v.text) := by
  cases v with
  | int i => exact ⟨h, nofun⟩
  | float d =>
    cases finite : d.isFinite with
    | true =>
      have document : (float d).toJson = .float d := if_pos finite
      rw [number?, finite, if_pos rfl] at h
      exact ⟨by rw [document]; exact h, nofun⟩
    | false =>
      rw [number?, finite] at h
      cases h
  | decimal d => exact ⟨rfl, fun _ => rfl⟩
  | _ => cases h

theorem standing_toJson (hy : stored.number? size = some y) (h : v.number? size = some x) :
    stored.standing? size v.toJson = some (v.standing size y) := by
  obtain ⟨number, text⟩ := number_toJson h
  rw [standing, h]
  cases exact : v.isDecimal with
  | true =>
    rw [text exact, Json.standing?, hy]
    rfl
  | false =>
    rw [exact] at number
    have other : ∀ s, v.toJson ≠ .str s := by
      intro s same
      rw [same] at number
      cases number
    unfold Json.standing?
    split
    · next s same => exact absurd same (other s)
    · rw [hy, number]
      rfl

end Value

theorem Sql.Truth.any_ofBool {α : Type} (p : α → Bool) (xs : List α) :
    joined .or (xs.map fun x => ofBool (p x)) = ofBool (xs.any p) := by
  induction xs with
  | nil => rfl
  | cons x xs ih =>
    have first : joined .or ((x :: xs).map fun x => ofBool (p x)) = (ofBool (p x)).or (ofBool (xs.any p)) := by
      rw [← ih]
      rfl
    rw [first, List.any_cons]
    cases p x <;> cases xs.any p <;> rfl

/-- numbers that no decimal number is among stand equal just if they are -/
theorem Value.standing_eq_iff {size : Double → Rat} {v : Value} {x : Rat} (h : v.number? size = some x) (y : Rat) :
    (v.standing size y == .eq) = (!v.isDecimal && v.number? size == some y) := by
  have equal : (compareOfLessAndEq y x == .eq) = (x == y) := by
    unfold compareOfLessAndEq
    rcases lt_trichotomy y x with less | rfl | greater
    · rw [if_pos less, beq_eq_false_iff_ne.mpr less.ne']
      rfl
    · rw [if_neg (lt_irrefl y), if_pos rfl]
      exact (beq_self_eq_true y).symm
    · rw [if_neg greater.not_gt, if_neg greater.ne', beq_eq_false_iff_ne.mpr greater.ne]
      rfl
  rw [standing, h]
  cases v.isDecimal with
  | true => rfl
  | false => simpa using equal

/-! ## Tests of a stored number -/

namespace PathFilter

section

variable {ρ δ : Type} {sense : Sense ρ δ} {size : Double → Rat} {doc : Json → δ} {path : JsonPath} {row : ρ}
  {stored : Json} {y : Rat} {ps all : List Value} (promise : sense.ComparesNumbers size doc)
  (leads : sense.path (sense.column row path.column) path.segments = doc stored) (number : stored.number? size = some y)

include promise leads number

/-- a comparison of the place with a bound number -/
theorem truth_against {op : Operator} (order : op.isOrder = true) {v : Value} {x : Rat} (h : v.number? size = some x)
    (bound : ps ++ [document v] <+: all) :
    (Condition.compare op (.plain path.value) (.plain (.parameter (ps.length + 1)))).truth sense all row =
      .ofBool (op.accepts (v.standing size y)) := by
  have stands : ∀ all, path.value.datum sense all row = doc stored := fun _ => leads
  rw [Condition.truth_compare stands bound, document, promise.parameter]
  exact promise.compare op stored v.toJson _ order (Value.standing_toJson number h)

/-- membership of the place in a bound list of numbers -/
theorem truth_membership {items : List Value} (numbers : ∀ v ∈ items, (v.number? size).isSome = true)
    (bound : ps ++ [.list (items.map document)] <+: all) :
    (Condition.among path.value (.parameter (ps.length + 1))).truth sense all row =
      .ofBool (items.any fun v => !v.isDecimal && v.number? size == some y) := by
  have documents : items.map document = (items.map Value.toJson).map .json := by
    rw [List.map_map]
    rfl
  have stands : ∀ all, path.value.datum sense all row = doc stored := fun _ => leads
  rw [documents] at bound
  rw [Condition.truth_among stands bound, promise.among, List.map_map, ← Truth.any_ofBool]
  refine congrArg _ (List.map_congr_left fun v hv => ?_)
  obtain ⟨x, hx⟩ := Option.isSome_iff_exists.mp (numbers v hv)
  rw [← Value.standing_eq_iff hx y]
  exact promise.compare .equal stored v.toJson _ rfl (Value.standing_toJson number hx)

omit number in
/-- what lets a missing place through adds nothing where the place holds a document -/
theorem truth_orNull_present {c : Condition Operand} :
    (c.orNull path.value).truth sense all row = (c.truth sense all row).or .no := by
  have stands : path.value.datum sense all row = doc stored := leads
  rw [Condition.truth_orNull, stands, promise.present]
  rfl

end

theorem operator_isOrder {test : PathTest} {op : Operator} (h : test.operator? = some op) : op.isOrder = true := by
  cases test <;> cases h <;> rfl

/-- a test that compares, compiled for an argument that is not missing -/
theorem runWith_operator {test : PathTest} {op : Operator} (h : test.operator? = some op) {v : Value}
    (there : v.isNull = false) (path : JsonPath) (ps : List Value) :
    let c := Condition.compare op (.plain path.value) (.plain (.parameter (ps.length + 1)))
    ∃ c', (compile ⟨path, test⟩ v).runWith ps = (.ok c', ps ++ [document v]) ∧ (c' = c ∨ c' = c.orNull path.value) := by
  intro c
  cases test <;> cases h
  case exact => exact ⟨c, by rw [compile, there]; rfl, .inl rfl⟩
  case notExact => exact ⟨c.orNull path.value, by rw [compile, there]; rfl, .inr rfl⟩
  all_goals exact ⟨c, rfl, .inl rfl⟩

/-- **Numbers in tests of documents.**  For every path, every test that compares and every finite number, and for
membership in every list of such numbers: the test is compiled, and what it binds for a whole or floating-point number is
a number of the same value, but for an exact decimal number it is not one.  Where the path leads to a stored number, this
is compared with whole and floating-point numbers by magnitude, and it counts as greater than every exact one. -/
theorem numeric_tests {ρ δ : Type} {sense : Sense ρ δ} {size : Double → Rat} {doc : Json → δ}
    (promise : sense.ComparesNumbers size doc) (path : JsonPath) :
    (∀ v x, v.number? size = some x → ∀ test op, test.operator? = some op → ∀ ps, ∃ c,
      (compile ⟨path, test⟩ v).runWith ps = (.ok c, ps ++ [.json v.toJson]) ∧
      (v.toJson.number? size = some x ↔ v.isDecimal = false) ∧
      ∀ all row stored y, ps ++ [.json v.toJson] <+: all →
        sense.path (sense.column row path.column) path.segments = doc stored → stored.number? size = some y →
        c.truth sense all row = .ofBool (op.accepts (if v.isDecimal then .gt else compareOfLessAndEq y x))) ∧
    ∀ items, (∀ v ∈ items, (v.number? size).isSome = true) → ∀ ps, ∃ c c',
      let bound := ps ++ [.list (items.map fun v => .json v.toJson)]
      (compile ⟨path, .among⟩ (.list items)).runWith ps = (.ok c, bound) ∧
      (compile ⟨path, .notAmong⟩ (.list items)).runWith ps = (.ok c', bound) ∧
      (∀ v ∈ items, v.toJson.number? size = v.number? size ↔ v.isDecimal = false) ∧
      ∀ all row stored y, bound <+: all →
        sense.path (sense.column row path.column) path.segments = doc stored → stored.number? size = some y →
        let listed := items.any fun v => !v.isDecimal && v.number? size == some y
        c.truth sense all row = .ofBool listed ∧ c'.truth sense all row = .ofBool !listed := by
  have number : ∀ {v : Value} {x}, v.number? size = some x → (v.toJson.number? size = some x ↔ v.isDecimal = false) := by
    intro v x h
    rw [(Value.number_toJson h).1]
    cases v.isDecimal <;> simp
  refine ⟨fun v x h test op compares ps => ?_, fun items numbers ps => ?_⟩
  · obtain ⟨c, runs, shape⟩ := runWith_operator compares (Value.isNull_of_number h) path ps
    refine ⟨c, runs, number h, fun all row stored y bound leads hy => ?_⟩
    have standing : v.standing size y = if v.isDecimal then .gt else compareOfLessAndEq y x := by rw [Value.standing, h]
    have against := truth_against promise leads hy (operator_isOrder compares) h bound
    rw [standing] at against
    rcases shape with rfl | rfl
    · exact against
    · rw [truth_orNull_present promise leads, against]
      cases op.accepts _ <;> rfl
  · refine ⟨_, _, rfl, rfl, fun v hv => ?_, fun all row stored y bound leads hy => ?_⟩
    · obtain ⟨x, hx⟩ := Option.isSome_iff_exists.mp (numbers v hv)
      rw [hx]
      exact number hx
    · have member := truth_membership promise leads hy numbers bound
      refine ⟨member, ?_⟩
      rw [truth_orNull_present promise leads, Condition.truth_neg, member]
      cases items.any _ <;> rfl

end PathFilter

/-! ## Prices -/

/-- a database over rows of values that compares numbers in documents, with the exact values of floating-point ones -/
def Sql.pricing : Sense (List (String × Value)) Value :=
  let compare (op : Operator) (a b : Value) : Truth :=
    match a, b with
    | .json i, .json j =>
      match i.standing? Double.toRat j with
      | some o => if op.isOrder then .ofBool (op.accepts o) else values.compare op a b
      | none => values.compare op a b
    | _, _ => values.compare op a b
  { values with
    compare
    among := fun a b =>
      match b with
      | .list items => Truth.joined .or (items.map (compare .equal a))
      | _ => .unknown }

theorem Sql.pricing_comparesNumbers : pricing.ComparesNumbers Double.toRat .json where
  parameter _ := rfl
  present _ := rfl
  compare op i j o order stands := by
    simp only [pricing, stands, order, if_true]
  among i js := by
    simp only [pricing, values, Option.getD_some, List.map_map]
    rfl

namespace PathFilter

/-- the price in a document -/
def price : JsonPath := ⟨"data", "data", ["price"]⟩

/-- a row with a price -/
def priced (n : Int) : List (String × Value) := [("data", .json (.obj [("price", .int n)]))]

/-- a price above a number, and a price in a list -/
theorem numeric_tests_prices : ∃ c c',
    (compile ⟨price, .greater⟩ (.int 5)).runWith [] = (.ok c, [.json (.int 5)]) ∧
    c.truth Sql.pricing [.json (.int 5)] (priced 7) = .yes ∧
    (compile ⟨price, .among⟩ (.list [.int 5, .float (.ofInt 7)])).runWith [] =
      (.ok c', [.list [.json (.int 5), .json (.float (.ofInt 7))]]) ∧
    c'.truth Sql.pricing [.list [.json (.int 5), .json (.float (.ofInt 7))]] (priced 7) = .yes := by
  obtain ⟨single, listed⟩ := numeric_tests Sql.pricing_comparesNumbers price
  obtain ⟨c, runs, _, above⟩ := single (.int 5) 5 rfl .greater .greater rfl []
  obtain ⟨c', _, runs', _, _, member⟩ := listed [.int 5, .float (.ofInt 7)] (by decide) []
  refine ⟨c, c', runs, ?_, ?_, ?_⟩
  · refine (above _ (priced 7) (.int 7) 7 (List.prefix_refl _) rfl rfl).trans ?_
    decide +kernel
  · rw [runs']
    rfl
  · refine (member _ (priced 7) (.int 7) 7 (List.prefix_refl _) rfl rfl).1.trans ?_
    decide +kernel

/-- **A price is not compared with an exact number by magnitude**: three is above five, and five is not five. -/
theorem numeric_tests_exact : ∃ m c c',
    Model.taggedNotes.build = .ok m ∧ parse? m "data.price__gt" = .ok (some ⟨price, .greater⟩) ∧
    (compile ⟨price, .greater⟩ (.decimal (.ofInt64 5))).runWith [] = (.ok c, [.json (.str "5")]) ∧
    c.truth Sql.pricing [.json (.str "5")] (priced 3) = .yes ∧
    (compile ⟨price, .exact⟩ (.decimal (.ofInt64 5))).runWith [] = (.ok c', [.json (.str "5")]) ∧
    c'.truth Sql.pricing [.json (.str "5")] (priced 5) = .no := by
  refine ⟨_, _, _, rfl, rfl, rfl, ?_, rfl, ?_⟩ <;> decide +kernel

end PathFilter

end Tabula
