import Tabula.Proofs.Model.Inheritance
/-!
# Declarations of keys

A key is declared by a flag on a field, by the composite key of a parent, or by the names that a draft gives itself.  A
draft is built only if at most one declaration counts, and the model has the key that it declares.

All flags count that are left when inherited fields are replaced, and so do the names that the draft gives.  Of the
composite keys of parents only the last one counts: `Draft.counted_eq_inPlay_iff`.
-/

namespace Tabula

/-- a declaration of a key -/
inductive KeyDeclaration where
  /-- a field is flagged -/
  | flag (f : Field)
  /-- a parent has a composite key -/
  | inherited (names : List String)
  /-- a draft names the fields -/
  | own (names : List String)

/-- a model has the key that is declared -/
def KeyDeclaration.Gives (m : Model) : KeyDeclaration → Prop
  | flag f => m.keyFields = [f]
  | inherited names => m.keyNames = names
  | own names => m.keyNames = names

namespace Draft

open Model (positionsWhere map_positionsWhere)

variable {d : Draft} {m : Model} {names : List String}

/-! ## The declarations that count -/

/-- the declaration by names, if there are any -/
def named (names : List String) : List (List String) := if names.isEmpty then [] else [names]

/-- the flags of all fields, keys of parents, and the names that are given here -/
def declarations (d : Draft) (parents : List (List String)) : List KeyDeclaration :=
  (d.merged.filter (·.isKey)).map .flag ++ parents.map .inherited ++ (named d.key).map .own

/-- the declarations that count -/
def counted (d : Draft) : List KeyDeclaration := d.declarations (named d.inheritedKey)

theorem length_declarations (d : Draft) (parents : List (List String)) :
    (d.declarations parents).length = (d.merged.filter (·.isKey)).length + parents.length + (named d.key).length := by
  simp only [declarations, List.length_append, List.length_map]

theorem length_flagged (d : Draft) :
    (positionsWhere d.merged (·.isKey)).length = (d.merged.filter (·.isKey)).length := by
  have found := congrArg List.length (map_positionsWhere d.merged (·.isKey))
  rwa [List.length_map, List.length_map] at found

/-- names and a flag do not go together -/
theorem keyPositions_of_flagged (declared : d.declaredKey = .ok names) (some : names ≠ [])
    (flagged : 0 < (d.merged.filter (·.isKey)).length) : d.keyPositions = .error d.duplicatedKey := by
  have positions : positionsWhere d.merged (·.isKey) ≠ [] := List.length_pos_iff.mp (length_flagged d ▸ flagged)
  rw [keyPositions, declared, Outcome.ok_bind, if_neg (by simpa using some), if_pos (by simpa using positions)]

theorem keyPositions_of_declaredKey {e : Error} (h : d.declaredKey = .error e) : d.keyPositions = .error e := by
  rw [keyPositions, h]
  rfl

/-- two declarations that count are an error -/
theorem keyPositions_of_two (two : 2 ≤ d.counted.length) : d.keyPositions = .error d.duplicatedKey := by
  rw [counted, length_declarations] at two
  cases inherited : d.inheritedKey with
  | nil =>
    cases own : d.key with
    | nil =>
      have declared : d.declaredKey = .ok [] := by simp [declaredKey, own, inherited]
      rw [inherited, own] at two
      have flagged : 1 < (positionsWhere d.merged (·.isKey)).length := length_flagged d ▸ two
      rw [keyPositions, declared, Outcome.ok_bind, if_pos List.isEmpty_nil, if_pos flagged]
    | cons name rest =>
      cases fromParents : d.kept.any (·.isKey) with
      | true => exact keyPositions_of_declaredKey (by simp [declaredKey, own, fromParents])
      | false =>
        have declared : d.declaredKey = .ok (name :: rest) := by simp [declaredKey, own, inherited, fromParents]
        rw [inherited, own] at two
        exact keyPositions_of_flagged declared (List.cons_ne_nil name rest) (Nat.le_of_succ_le_succ two)
  | cons name rest =>
    cases own : d.key with
    | nil =>
      have declared : d.declaredKey = .ok (name :: rest) := by simp [declaredKey, own, inherited]
      rw [inherited, own] at two
      exact keyPositions_of_flagged declared (List.cons_ne_nil name rest) (Nat.le_of_succ_le_succ two)
    | cons _ _ => exact keyPositions_of_declaredKey (by simp [declaredKey, own, inherited])

/-- the fields that names lead to have these names -/
theorem names_of_lookups {ps : List Nat} (lookups : names.mapM d.lookup = .ok ps) :
    (ps.filterMap (d.merged[·]?)).map Field.name = names := by
  have each := Outcome.mapM_ok.mp lookups
  clear lookups
  induction each with
  | nil => rfl
  | cons looked _ ih =>
    obtain ⟨_, f, there, named⟩ := exists_of_lookup looked
    rw [List.filterMap_cons, there, List.map_cons, ih, named]

theorem keyNames_of_lookups (fields : m.fields = d.merged) (lookups : names.mapM d.lookup = .ok m.key) :
    m.keyNames = names := by
  rw [Model.keyNames, Model.keyFields, fields, names_of_lookups lookups]

theorem named_of_ne_nil (some : names ≠ []) : named names = [names] := if_neg (by simpa using some)

/-- a model has the key of the one declaration that counts, or none -/
theorem gives_of_build (built : d.build = .ok m) :
    (d.counted = [] ∧ m.key = []) ∨ ∃ k, d.counted = [k] ∧ k.Gives m := by
  have checked := checked_of_build built
  have sound := sound_of_build built
  rcases keyPositions_iff.mp checked.positions with
    ⟨declared, key, few⟩ | ⟨names, declared, some, unflagged, lookups, _⟩
  · obtain ⟨own, inherited⟩ := declaredKey_eq_nil declared
    have flagged := filter_isKey built key
    rw [checked.fields] at flagged
    have counted : d.counted = m.keyFields.map .flag := by simp [counted, declarations, named, own, inherited, flagged]
    have length := Model.length_keyFields sound
    rcases Nat.le_one_iff_eq_zero_or_eq_one.mp few with none | one
    · have keyFields : m.keyFields = [] := List.eq_nil_of_length_eq_zero (length.trans none)
      exact .inl ⟨by rw [counted, keyFields, List.map_nil], List.eq_nil_of_length_eq_zero none⟩
    · obtain ⟨f, keyFields⟩ := List.length_eq_one_iff.mp (length.trans one)
      exact .inr ⟨.flag f, by rw [counted, keyFields, List.map_singleton], keyFields⟩
  · have flags : d.merged.filter (·.isKey) = [] := List.filter_eq_nil_iff.mpr fun f hf => by simp [unflagged f hf]
    have gives := keyNames_of_lookups checked.fields lookups
    unfold declaredKey at declared
    split at declared
    · next own =>
      injection declared with inherited
      have own : d.key = [] := by simpa using own
      refine .inr ⟨.inherited names, ?_, gives⟩
      simp [counted, declarations, flags, own, inherited, named, some]
    · split at declared
      · cases declared
      · next none =>
        injection declared with own
        have inherited : d.inheritedKey = [] := by
          simp only [Bool.or_eq_true, not_or] at none
          simpa using none.1
        refine .inr ⟨.own names, ?_, gives⟩
        simp [counted, declarations, flags, own, inherited, named, some]

/-! ## Writing a draft -/

/-- one call on a draft in the making -/
inductive Clause where
  | field (f : Field)
  /-- the parent is a model that was built -/
  | inherits (parent : Model) (built : ∃ d : Draft, d.build = .ok parent)
  | key (names : List String)
  | table (name : String)
  | database (name : String)
  | isAbstract
  | description (text : String)
  | uniqueTogether (group : List String)
  | index (group : List String)

def add (d : Draft) : Clause → Draft
  | .field f => { d with fields := d.fields ++ [f] }
  | .inherits parent _ => d.inherit parent
  | .key names => { d with key := names }
  | .table name => { d with table := some name }
  | .database name => { d with database := name }
  | .isAbstract => { d with isAbstract := true }
  | .description text => { d with description := some text }
  | .uniqueTogether group => { d with uniqueTogether := d.uniqueTogether ++ [group] }
  | .index group => { d with indexes := d.indexes ++ [group] }

/-- the draft that clauses make, one after the other -/
def write (name : String) (clauses : List Clause) : Draft := clauses.foldl add { name := name }

/-- the composite keys of parents, in the order in which they are inherited -/
def compositeKeys : List Clause → List (List String)
  | [] => []
  | .inherits parent _ :: rest =>
    if parent.isComposite then parent.keyNames :: compositeKeys rest else compositeKeys rest
  | _ :: rest => compositeKeys rest

/-- the declarations of a draft -/
def inPlay (name : String) (clauses : List Clause) : List KeyDeclaration :=
  (write name clauses).declarations (compositeKeys clauses)

theorem keyNames_ne_nil (built : ∃ d : Draft, d.build = .ok m) (composite : m.isComposite = true) : m.keyNames ≠ [] := by
  obtain ⟨d, built⟩ := built
  have two : 1 < m.key.length := by simpa [Model.isComposite] using composite
  rw [← List.length_pos_iff, Model.keyNames, List.length_map, Model.length_keyFields (sound_of_build built)]
  exact Nat.lt_of_succ_lt two

theorem ne_nil_of_mem_compositeKeys {clauses : List Clause} (h : names ∈ compositeKeys clauses) : names ≠ [] := by
  induction clauses with
  | nil => cases h
  | cons clause rest ih =>
    cases clause with
    | inherits parent built =>
      unfold compositeKeys at h
      split at h
      · next composite =>
        rcases List.mem_cons.mp h with rfl | h
        · exact keyNames_ne_nil built composite
        · exact ih h
      · exact ih h
    | _ => exact ih h

/-- each composite key takes the place of the one before it -/
theorem inheritedKey_foldl (clauses : List Clause) (d : Draft) :
    (clauses.foldl add d).inheritedKey = (compositeKeys clauses).getLast?.getD d.inheritedKey := by
  induction clauses generalizing d with
  | nil => rfl
  | cons clause rest ih =>
    rw [List.foldl_cons, ih]
    cases clause with
    | inherits parent built =>
      cases composite : parent.isComposite with
      | true => simp [compositeKeys, add, inherit, composite, List.getLast?_cons]
      | false => simp [compositeKeys, add, inherit, composite]
    | _ => rfl

/-- of the composite keys the last one counts -/
theorem counted_write (name : String) (clauses : List Clause) :
    (write name clauses).counted = (write name clauses).declarations (compositeKeys clauses).getLast?.toList := by
  have inherited : (write name clauses).inheritedKey = (compositeKeys clauses).getLast?.getD [] :=
    inheritedKey_foldl clauses _
  rw [counted, inherited]
  cases last : (compositeKeys clauses).getLast? with
  | none => rfl
  | some names =>
    have some := ne_nil_of_mem_compositeKeys (List.mem_of_getLast? last)
    exact congrArg (declarations _) (named_of_ne_nil some)

/-- all declarations count just if there are not two composite keys -/
theorem counted_eq_inPlay_iff (name : String) (clauses : List Clause) :
    (write name clauses).counted = inPlay name clauses ↔ (compositeKeys clauses).length ≤ 1 := by
  rw [counted_write, inPlay]
  match compositeKeys clauses with
  | [] => simp
  | [names] => simp
  | first :: second :: rest =>
    refine iff_of_false (fun same => ?_) (by simp)
    have lengths := congrArg List.length same
    rw [length_declarations, length_declarations] at lengths
    simp [List.getLast?_cons] at lengths

/-- **At most one declaration of a key counts.**  However the clauses of a draft are ordered: if two declarations count,
nothing is built and the error says that the key is duplicated, unless the fields are faulty already.  A model that is
built has the key of the one declaration that counts, and no key if there is none.  Every declaration counts, except that
of the composite keys of several parents only the last one does. -/
theorem build_write (name : String) (clauses : List Clause) :
    (2 ≤ (write name clauses).counted.length → (write name clauses).build =
      do (write name clauses).checkFields; .error (write name clauses).duplicatedKey) ∧
    (∀ m, (write name clauses).build = .ok m → ((write name clauses).counted = [] ∧ m.key = []) ∨
      ∃ k, (write name clauses).counted = [k] ∧ k.Gives m) ∧
    (write name clauses).counted = (write name clauses).declarations (compositeKeys clauses).getLast?.toList ∧
    ((write name clauses).counted = inPlay name clauses ↔ (compositeKeys clauses).length ≤ 1) := by
  refine ⟨fun two => ?_, fun m => gives_of_build, counted_write name clauses, counted_eq_inPlay_iff name clauses⟩
  rw [build, keyPositions_of_two two]
  rfl

/-- an abstract parent with a key of two fields -/
def paired (name a b : String) : Draft where
  name := name
  isAbstract := true
  fields := [Field.new a .int, Field.new b .int]
  key := [a, b]

/-- of two parents with composite keys the first loses its key -/
theorem dropped_key_paired : ∃ first second m,
    ∃ (a : (paired "First" "a" "b").build = .ok first) (c : (paired "Second" "c" "d").build = .ok second),
      (write "Child" [.inherits first ⟨_, a⟩, .inherits second ⟨_, c⟩]).build = .ok m ∧
      inPlay "Child" [.inherits first ⟨_, a⟩, .inherits second ⟨_, c⟩] =
        [.inherited ["a", "b"], .inherited ["c", "d"]] ∧
      m.isAbstract = false ∧ m.keyNames = ["c", "d"] :=
  ⟨_, _, _, rfl, rfl, rfl, rfl, rfl, rfl⟩

end Draft

end Tabula
