import Tabula.Model.Draft
import Tabula.Proofs.Instance.OwnValues
import Tabula.Proofs.Value.ShownText
/-!
# Equality and hashing of instances

Instances of one model are equal if their keys are; a hash is made of the name of the model and the text of the key.
`Held.hashes_agree`: equality is symmetric and transitive, an instance equals itself unless a number in its key is none,
and equal instances have one hash just if their keys are the very same.  They are for keys of most kinds; decimal and
floating-point numbers and documents have equal values with different texts.
-/

namespace Tabula

/-! ## Keys -/

namespace Value

/-- values that are equal one by one, where equal ones are the very same -/
theorem eq_of_sameItems_map {α : Type} {f g : α → Value} {xs : List α}
    (exact : ∀ x ∈ xs, (f x).same (g x) = true → f x = g x) (h : sameItems (xs.map f) (xs.map g) = true) :
    xs.map f = xs.map g := by
  induction xs with
  | nil => rfl
  | cons x xs ih =>
    simp only [List.map_cons, sameItems, Bool.and_eq_true] at h
    rw [List.map_cons, List.map_cons, exact x List.mem_cons_self h.1,
      ih (fun y hy => exact y (List.mem_cons_of_mem _ hy)) h.2]

theorem itemsHaveNaN_eq_false {vs : List Value} (h : ∀ v ∈ vs, v.hasNaN = false) : itemsHaveNaN vs = false := by
  induction vs with
  | nil => rfl
  | cons v vs ih =>
    rw [itemsHaveNaN, h v List.mem_cons_self, ih fun w hw => h w (List.mem_cons_of_mem _ hw)]
    rfl

end Value

/-! ## Exact kinds -/

namespace FieldKind

/-- whether the equal values of a field are the very same -/
def isExact : FieldKind → Bool
  | decimal _ _ | float | json => false
  | _ => true

theorem hasNaN_of_exact {k : FieldKind} {v : Value} (exact : k.isExact = true) (own : k.owns v = true) :
    v.hasNaN = false := by
  cases k <;> cases v <;> simp only [isExact, owns, Bool.false_eq_true] at exact own <;> rfl

theorem eq_of_same_of_exact {k : FieldKind} {v w : Value} (exact : k.isExact = true) (own : k.owns v = true)
    (same : v.same w = true) : v = w := by
  cases k <;> cases v <;> simp only [isExact, owns, Bool.false_eq_true] at exact own <;>
    cases w <;> simp only [Value.same, Bool.false_eq_true] at same <;> first | rfl | rw [eq_of_beq same]

end FieldKind

/-- whether the fields of the key are of exact kinds, with defaults of their own kinds -/
def Model.HasExactKey (m : Model) : Prop :=
  ∀ p ∈ m.key, ∃ f, m.fields[p]? = some f ∧ f.kind.isExact = true ∧
    ∀ draw, f.accept (f.initial draw) = .ok (f.initial draw)

/-! ## Instances -/

namespace Instance

variable {models : Nat → Model} {may : Instance → String → Prop} {i j k : Instance}

theorem length_keyValues (e : i.entity = j.entity) : i.keyValues.length = j.keyValues.length := by
  rw [keyValues, keyValues, model, model, e, List.length_map, List.length_map]

/-- a key is the value of its only field, or the list of the values of its fields -/
theorem key_cases (i : Instance) :
    (∃ v, i.keyValues = [v] ∧ i.key = v) ∨ i.keyValues.length ≠ 1 ∧ i.key = .list i.keyValues := by
  unfold key
  split
  · next v single => exact .inl ⟨v, single, rfl⟩
  · next composite =>
    refine .inr ⟨fun one => ?_, rfl⟩
    obtain ⟨v, single⟩ := List.length_eq_one_iff.mp one
    exact composite v single

/-- two instances of one model both have a key of one value, or both have a list of them -/
theorem keys_cases (e : i.entity = j.entity) :
    (∃ v w, (i.keyValues = [v] ∧ i.key = v) ∧ j.keyValues = [w] ∧ j.key = w) ∨
      i.key = .list i.keyValues ∧ j.key = .list j.keyValues := by
  have length := length_keyValues e
  rcases i.key_cases with ⟨v, values, shape⟩ | ⟨composite, shape⟩ <;>
    rcases j.key_cases with ⟨w, values', shape'⟩ | ⟨composite', shape'⟩
  · exact .inl ⟨v, w, ⟨values, shape⟩, values', shape'⟩
  · exact absurd (by rw [← length, values]; rfl) composite'
  · exact absurd (by rw [length, values']; rfl) composite
  · exact .inr ⟨shape, shape'⟩

/-- a key tells the values of its fields -/
theorem key_eq_iff (e : i.entity = j.entity) : i.key = j.key ↔ i.keyValues = j.keyValues := by
  rcases keys_cases e with ⟨v, w, ⟨values, shape⟩, values', shape'⟩ | ⟨shape, shape'⟩
  · rw [shape, shape', values, values', List.singleton_inj]
  · rw [shape, shape', Value.list.injEq]

/-- keys are equal if the values of their fields are, one by one -/
theorem same_eq (e : i.entity = j.entity) : i.same j = Value.sameItems i.keyValues j.keyValues := by
  rw [same]
  rcases keys_cases e with ⟨v, w, ⟨values, shape⟩, values', shape'⟩ | ⟨shape, shape'⟩
  · rw [shape, shape', values, values', Value.sameItems, Value.sameItems, Bool.and_true]
  · rw [shape, shape']
    rfl

/-- where the key is exact, its values are the fields' own -/
theorem Arises.owns_key (h : i.Arises models may) (exact : i.model.HasExactKey) {p : Nat} (hp : p ∈ i.model.key) :
    ∃ k : FieldKind, k.isExact = true ∧ k.owns (i.valueAt p) = true := by
  obtain ⟨f, hf, kind, own⟩ := exact p hp
  let q (f : Field) (v : Value) : Prop :=
    (∀ draw, f.accept (f.initial draw) = .ok (f.initial draw)) → f.accept v = .ok v
  have each : i.Each q := h.each (fun _ _ _ converted _ => Field.accept_accept converted) fun _ _ _ draw own => own draw
  exact ⟨f.kind, kind, Field.owns_of_accept (each p f hf own)⟩

theorem Arises.same_self (h : i.Arises models may) (exact : i.model.HasExactKey) : i.same i = true := by
  have numbers : ∀ v ∈ i.keyValues, v.hasNaN = false := by
    intro v hv
    obtain ⟨p, hp, rfl⟩ := List.mem_map.mp hv
    obtain ⟨_, kind, own⟩ := h.owns_key exact hp
    exact FieldKind.hasNaN_of_exact kind own
  rw [same_eq rfl, Value.sameItems_self_eq, Value.itemsHaveNaN_eq_false numbers]
  rfl

theorem Arises.key_eq_of_same (h : i.Arises models may) (e : i.entity = j.entity) (exact : i.model.HasExactKey)
    (same : i.same j = true) : i.key = j.key := by
  have positions : j.model.key = i.model.key := by rw [model, model, e]
  rw [same_eq e, keyValues, keyValues, positions] at same
  rw [key_eq_iff e, keyValues, keyValues, positions]
  refine Value.eq_of_sameItems_map (fun p hp equal => ?_) same
  obtain ⟨_, kind, own⟩ := h.owns_key exact hp
  exact FieldKind.eq_of_same_of_exact kind own equal

theorem hashInput_eq_iff (e : i.entity = j.entity) (same : i.same j = true) :
    i.hashInput = j.hashInput ↔ i.key = j.key := by
  have name : i.model.name = j.model.name := by rw [model, model, e]
  constructor
  · intro hash
    exact Value.eq_of_same_of_text same (congrArg Prod.snd hash)
  · intro key
    rw [hashInput, hashInput, name, key]

end Instance

/-- **Equality and hashing of instances.**  Instances equal themselves unless a number in their key is none; equality is
symmetric and transitive; and equal instances of one model are hashed alike just if their keys are the very same, down to
the places of decimal numbers and the signs of zeros.  Of all instances that a program may come to hold, those of a model
whose key fields are of exact kinds equal themselves, and the equal ones among them are hashed alike. -/
theorem Held.hashes_agree (models : Nat → Model) :
    (∀ i : Instance, i.same i = !i.key.hasNaN) ∧
    (∀ i j : Instance, i.same j = j.same i) ∧
    (∀ i j k : Instance, i.same j = true → j.same k = true → i.same k = true) ∧
    (∀ i j : Instance, i.entity = j.entity → i.same j = true → (i.hashInput = j.hashInput ↔ i.key = j.key)) ∧
    (∀ r held, Held models r held → ∀ i ∈ held, i.model.HasExactKey →
      i.same i = true ∧ ∀ j ∈ held, i.entity = j.entity → i.same j = true → i.hashInput = j.hashInput) := by
  refine ⟨fun i => i.key.same_self_eq, fun i j => ?_, fun i j k => i.key.same_trans j.key k.key,
    fun i j => Instance.hashInput_eq_iff, fun r held h i hi exact => ?_⟩
  · exact Bool.eq_iff_iff.mpr ⟨i.key.same_symm j.key, j.key.same_symm i.key⟩
  · have arises := h.tended.arises.2 i hi
    refine ⟨arises.same_self exact, fun j _ e same => ?_⟩
    exact (Instance.hashInput_eq_iff e same).mpr (arises.key_eq_of_same e exact same)

/-- rooms, identified by their building and their number there -/
def rooms : Model where
  name := "Room"
  table := "room"
  database := defaultDatabase
  isAbstract := false
  description := none
  uniqueTogether := []
  indexes := []
  fields := [Field.new "building" (.char 8), Field.new "number" .int]
  key := [0, 1]

/-- a room -/
def room : Instance := { entity := ⟨0, rooms⟩, values := [.string "N", .int 5] }

/-- the key of a room is exact: two that are made alike are equal and hashed alike -/
theorem Held.hashes_agree_rooms : rooms.HasExactKey ∧ (∃ r, Held (fun _ => rooms) r [room, room]) ∧
    room.same room = true ∧ room.hashInput = ("Room", "(N, 5)") := by
  have exact : rooms.HasExactKey := by
    intro p hp
    rcases List.mem_cons.mp hp with rfl | later
    · exact ⟨_, rfl, rfl, fun _ => rfl⟩
    · obtain rfl := List.mem_singleton.mp later
      exact ⟨_, rfl, rfl, fun _ => rfl⟩
  let make : Handling := .ofPairs 0 (fun _ => 0) [("building", .string "N"), ("number", .int 5)]
  have nothing : ∀ {held : List Instance}, ∀ i ∈ make.operands, i ∈ held := nofun
  have one : Held (fun _ => rooms) _ ([room] ++ []) :=
    .handle (.start []) nothing trivial (Dialogue.says_run Instance.withoutRows () (make.run _ [] _))
  have two : Held (fun _ => rooms) _ ([room] ++ ([room] ++ [])) :=
    one.handle nothing trivial (Dialogue.says_run Instance.withoutRows () (make.run _ [] _))
  obtain ⟨_, _, _, _, held⟩ := Held.hashes_agree fun _ => rooms
  exact ⟨exact, ⟨_, two⟩, (held _ _ two room List.mem_cons_self exact).1, rfl⟩

/-- quotes, identified by the level that they stand at and the price -/
def quotes : Model where
  name := "Quote"
  table := "quote"
  database := defaultDatabase
  isAbstract := false
  description := none
  uniqueTogether := []
  indexes := []
  fields := [Field.new "level" .float, Field.new "price" (.decimal 10 2)]
  key := [0, 1]

/-- a quote -/
def quote (level : Double) (price : Decimal) : Instance :=
  { entity := ⟨0, quotes⟩, values := [.float level, .decimal price] }

/-- one and a half, with one place -/
def shortPrice : Decimal := { negative := false, mantissa := 15, scale := 1 }

/-- one and a half, with two places -/
def paddedPrice : Decimal := { negative := false, mantissa := 150, scale := 2 }

/-- **Equal quotes may be hashed apart, and a quote need not equal itself**: of three that a program holds, two have one
price, with one place and with two, and the third stands at a level that is no number. -/
theorem Held.hashes_disagree : (∃ d : Draft, d.build = .ok quotes) ∧
    (∃ r, Held (fun _ => quotes) r
      [quote .nan shortPrice, quote (.ofInt 1) paddedPrice, quote (.ofInt 1) shortPrice]) ∧
    (quote (.ofInt 1) paddedPrice).same (quote (.ofInt 1) shortPrice) = true ∧
    (quote (.ofInt 1) paddedPrice).hashInput = ("Quote", "(1, 1.50)") ∧
    (quote (.ofInt 1) shortPrice).hashInput = ("Quote", "(1, 1.5)") ∧
    (quote .nan shortPrice).same (quote .nan shortPrice) = false := by
  let make (level : Double) (price : Decimal) : Handling :=
    .ofPairs 0 (fun _ => 0) [("level", .float level), ("price", .decimal price)]
  have nothing : ∀ {level price} {held : List Instance}, ∀ i ∈ (make level price).operands, i ∈ held := nofun
  have one : Held (fun _ => quotes) _ ([quote (.ofInt 1) shortPrice] ++ []) :=
    .handle (.start []) nothing trivial
      (Dialogue.says_run Instance.withoutRows () ((make (.ofInt 1) shortPrice).run _ [] _))
  have two : Held (fun _ => quotes) _ ([quote (.ofInt 1) paddedPrice] ++ ([quote (.ofInt 1) shortPrice] ++ [])) :=
    one.handle nothing trivial
      (Dialogue.says_run Instance.withoutRows () ((make (.ofInt 1) paddedPrice).run _ [] _))
  have three : Held (fun _ => quotes) _ ([quote .nan shortPrice] ++ _) :=
    two.handle nothing trivial (Dialogue.says_run Instance.withoutRows () ((make .nan shortPrice).run _ [] _))
  have built : ∃ d : Draft, d.build = .ok quotes :=
    ⟨{ name := "Quote", fields := quotes.fields, key := ["level", "price"] }, rfl⟩
  exact ⟨built, ⟨_, three⟩, rfl, rfl, rfl, rfl⟩

end Tabula
