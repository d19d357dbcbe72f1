import Tabula.Proofs.Query.Nodes
/-!
# One more condition

`Filter.andCondition` puts a condition into a leaf itself and beside a branch, `&&&` puts it beside any filter.  Both
compile to the same conditions with the same parameters.  The shapes mean the same beside a branch and in a leaf that
is not negated; in a negated leaf the condition gets under the negation: `Filter.conjoins_iff`.
-/

namespace Tabula

open Sql (Condition Join Operand Predicate Reading Truth)

/-! ## Truth values -/

namespace Sql.Truth

theorem and_assoc (a b c : Truth) : (a.and b).and c = a.and (b.and c) := by
  cases a <;> cases b <;> cases c <;> rfl

theorem not_and (a b : Truth) : (a.and b).not = a.not.or b.not := by cases a <;> cases b <;> rfl

theorem joined_pair (a b : Truth) : joined .and [a, b] = a.and b := by cases a <;> cases b <;> rfl

/-- a conjunction with one more part at its end -/
theorem joined_concat (ts : List Truth) (t : Truth) : joined .and (ts ++ [t]) = (joined .and ts).and t := by
  induction ts with
  | nil => cases t <;> rfl
  | cons u ts ih =>
    change u.and (joined .and (ts ++ [t])) = (u.and (joined .and ts)).and t
    rw [ih, and_assoc]

end Sql.Truth

/-! ## Failing compilations -/

namespace Binding

variable {α β : Type} {ps qs : List Value} {e : Error}

/-- a sequence fails in its first part or in its second -/
theorem runWith_seq_error {x : Binding α} {f : α → Binding β} (h : (x >>= f).runWith ps = (.error e, qs)) :
    x.runWith ps = (.error e, qs) ∨ ∃ a rs, x.runWith ps = (.ok a, rs) ∧ (f a).runWith rs = (.error e, qs) := by
  rw [runWith_seq] at h
  match hx : x.runWith ps with
  | (.ok a, rs) => exact .inr ⟨a, rs, rfl, by simpa [hx] using h⟩
  | (.error d, rs) => exact .inl (by simpa [hx] using h)

theorem runWith_seq_pure_error {f : α → β} {x : Binding α}
    (h : (x >>= fun a => pure (f a)).runWith ps = (.error e, qs)) : x.runWith ps = (.error e, qs) := by
  rcases runWith_seq_error h with fails | ⟨a, rs, _, h⟩
  · exact fails
  · cases h

end Binding

namespace Model

variable {m : Model} {as bs : List (String × Value)} {ps qs rs : List Value} {cs : List (Condition Operand)} {e : Error}

/-- the conditions fail where the first of them that fails does -/
theorem conditions_append_error (h : (m.conditions as).runWith ps = (.error e, qs)) (bs : List (String × Value)) :
    (m.conditions (as ++ bs)).runWith ps = (.error e, qs) := by
  induction as generalizing ps with
  | nil => simp [conditions] at h
  | cons p rest ih =>
    rcases Binding.runWith_seq_error h with fails | ⟨c, rs, hc, h⟩
    · simp [conditions, Binding.runWith_seq, fails]
    · have later := ih (Binding.runWith_seq_pure_error h)
      simp [conditions, Binding.runWith_seq, Binding.runWith_map, hc, later, Except.map]

theorem conditions_append_error_right (ha : (m.conditions as).runWith ps = (.ok cs, qs))
    (hb : (m.conditions bs).runWith qs = (.error e, rs)) :
    (m.conditions (as ++ bs)).runWith ps = (.error e, rs) := by
  induction as generalizing ps cs with
  | nil =>
    simp only [conditions, Binding.runWith_pure, Prod.mk.injEq, Except.ok.injEq] at ha
    exact ha.2 ▸ hb
  | cons p rest ih =>
    obtain ⟨c, es, ss, hc, he, rfl⟩ := conditions_cons_ok ha
    simp [conditions, Binding.runWith_seq, Binding.runWith_map, hc, ih he, Except.map]

end Model

namespace Filter

mutual

/-- a compilation fails as that of its conditions does -/
theorem compile_error {m : Model} (f : Filter) {ps qs : List Value} {e : Error}
    (h : (compile m f).runWith ps = (.error e, qs)) :
    (m.conditions f.pairs).runWith ps = (.error e, qs) := by
  cases f with
  | leaf cs join negated =>
    rcases Binding.runWith_seq_error h with fails | ⟨parts, rs, _, h⟩
    · exact fails
    · simp at h
  | branch fs join negated =>
    rcases Binding.runWith_seq_error h with fails | ⟨parts, rs, _, h⟩
    · exact compileAll_error fs fails
    · simp at h

theorem compileAll_error {m : Model} (fs : List Filter) {ps qs : List Value} {e : Error}
    (h : (compileAll m fs).runWith ps = (.error e, qs)) :
    (m.conditions (pairsAll fs)).runWith ps = (.error e, qs) := by
  cases fs with
  | nil => simp [compileAll] at h
  | cons f fs =>
    rcases Binding.runWith_seq_error h with fails | ⟨c, rs, hc, h⟩
    · exact Model.conditions_append_error (compile_error f fails) _
    · obtain ⟨leaves, hl, _⟩ := compile_ok f hc
      have rest : (compileAll m fs).runWith rs = (.error e, qs) := by
        cases c with
        | none => exact h
        | some c => exact Binding.runWith_seq_pure_error h
      exact Model.conditions_append_error_right hl (compileAll_error fs rest)

end

/-! ## What the text of a compiled filter says -/

/-- a filter whose conditions compile does so itself, and its text reads as a tree over the numbers of its conditions,
each once and in order, that has the truth value of the filter; `own` has the rendered conditions under their numbers -/
theorem compile_reads {m : Model} (f : Filter) (nonempty : f.isEmpty = false) {ps qs : List Value}
    {leaves : List (Condition Operand)} (h : (m.conditions f.pairs).runWith ps = (.ok leaves, qs)) {own : Nat → Condition Operand}
    (numbered : leaves = (List.range f.conditionCount).map own) (full : ∀ i, (own i).isFull = true) :
    ∃ (c : Condition Operand) (tree : Reading Nat), (f.compile m).runWith ps = (.ok (some c), qs) ∧
      Reading.ofText? (c.text Operand.text) = some (tree.bind fun i => (own i).reading) ∧
      tree.leaves = List.range f.conditionCount ∧ ∀ truth, f.meaning truth 0 = some (tree.eval truth) := by
  match hf : (f.compile m).runWith ps with
  | (.error e, rs) => simp [compile_error f hf] at h
  | (.ok c, rs) =>
    obtain ⟨leaves', hl, shape⟩ := compile_ok f hf
    simp only [hl, Prod.mk.injEq, Except.ok.injEq] at h
    obtain ⟨rfl, rfl⟩ := h
    have filled := shape 0 own (numbered.trans (congrArg (List.map own) List.range_eq_range'))
    have some? : c ≠ none := fun none => by simp [(compile_eq_none f hf).mp none] at nonempty
    cases hs : f.skeleton 0 with
    | none => exact absurd (by rw [filled, hs]; rfl) some?
    | some tree =>
      have proper := isProper_skeleton 0 f tree hs
      have leaves := leaves_skeleton 0 f
      have evals := fun truth => eval_skeleton truth 0 f
      rw [hs] at filled
      simp only [hs, Option.toList_some, List.flatMap_singleton] at leaves
      refine ⟨tree.fill own, tree, by rw [filled]; rfl, ?_, leaves.trans List.range_eq_range'.symm, fun truth => ?_⟩
      · rw [Condition.ofText_text (Reading.isFull_fill full tree proper), Reading.reading_fill own tree proper]
      · rw [← evals truth, hs, Option.map_some]

/-! ## Where a condition goes -/

/-- a leaf under a mark of negation -/
def isNegatedLeaf : Filter → Bool
  | leaf _ _ negated => negated
  | branch .. => false

section More

variable (f : Filter) (key : String) (v : Value)

theorem and_eq : (f &&& condition key v) = branch [f, condition key v] .and false := rfl

theorem pairs_and : (f &&& condition key v).pairs = f.pairs ++ [(key, v)] := rfl

theorem pairs_andCondition : (f.andCondition key v).pairs = f.pairs ++ [(key, v)] := by
  cases f <;> rfl

theorem conditionCount_of_pairs {g : Filter} (h : g.pairs = f.pairs ++ [(key, v)]) :
    g.conditionCount = f.conditionCount + 1 := by
  rw [← length_pairs, h, List.length_append, length_pairs, List.length_singleton]

variable {f} (nonempty : f.isEmpty = false)

include nonempty in
theorem exists_meaning (truth : Nat → Truth) : ∃ t, f.meaning truth 0 = some t := by
  have leaves := leaves_skeleton 0 f
  have count : f.conditionCount ≠ 0 := fun none => by simp [f.isEmpty_iff.mpr none] at nonempty
  rw [← eval_skeleton]
  cases hs : f.skeleton 0 with
  | some tree => exact ⟨tree.eval truth, rfl⟩
  | none =>
    rw [hs] at leaves
    exact absurd (by simpa using congrArg List.length leaves.symm) count

/-- beside a filter a condition is conjoined -/
theorem meaning_and {truth : Nat → Truth} {t : Truth} (h : f.meaning truth 0 = some t) :
    (f &&& condition key v).meaning truth 0 = some (t.and (truth f.conditionCount)) := by
  have last : (condition key v).meaning truth f.conditionCount = some (truth f.conditionCount) := by
    simp [condition, meaning, Truth.joined?, Truth.negatedIf]
  simp [and_eq, meaning, meanings, h, last, Truth.joined?, Truth.joined_pair, Truth.negatedIf]

/-- in a leaf it is conjoined with the conditions before the mark of negation -/
theorem meaning_leaf_concat {cs : List (String × Value)} (some : cs ≠ []) (join : Join) (negated : Bool)
    (truth : Nat → Truth) :
    ∃ t, (leaf cs join false).meaning truth 0 = .some t ∧ (leaf cs join negated).meaning truth 0 =
        .some (t.negatedIf negated) ∧
      (leaf (cs ++ [(key, v)]) join negated).meaning truth 0 =
        .some ((t.and (truth cs.length)).negatedIf negated) := by
  have joined? {ts : List Truth} (h : ts ≠ []) : Truth.joined? .and ts = .some (Truth.joined .and ts) := by
    cases ts with
    | nil => exact absurd rfl h
    | cons t ts => rfl
  have values : (List.range' 0 cs.length).map truth ≠ [] := by simpa using some
  have longer : (List.range' 0 (cs ++ [(key, v)]).length).map truth =
      (List.range' 0 cs.length).map truth ++ [truth cs.length] := by
    simp [List.range'_1_concat]
  refine ⟨Truth.joined .and ((List.range' 0 cs.length).map truth), ?_, ?_, ?_⟩
  · rw [meaning, joined? values]
    rfl
  · rw [meaning, joined? values]
    rfl
  · rw [meaning, longer, joined? (by simp), Truth.joined_concat]
    rfl

include nonempty

/-- what is added is conjoined, but in a negated leaf its negation is disjoined -/
theorem meaning_andCondition {truth : Nat → Truth} {t : Truth} (h : f.meaning truth 0 = some t) :
    (f.andCondition key v).meaning truth 0 =
      some (if f.isNegatedLeaf then t.or (truth f.conditionCount).not else t.and (truth f.conditionCount)) := by
  cases f with
  | branch fs join negated => exact meaning_and key v h
  | leaf cs join negated =>
    have some : cs ≠ [] := by simpa [isEmpty] using nonempty
    obtain ⟨u, _, before, after⟩ := meaning_leaf_concat key v some join negated truth
    obtain rfl : u.negatedIf negated = t := Option.some.inj (before.symm.trans h)
    rw [andCondition, after, conditionCount, isNegatedLeaf]
    cases negated with
    | false => rfl
    | true => exact congrArg Option.some (Truth.not_and _ _)

/-- **One more condition is conjoined unless the filter is a negated leaf.**  Say that the filter comes to `t` and the
condition, which gets the last number, to `c`.  Then `&&&` comes to `t` and `c`.  So does `andCondition`, but in a
negated leaf it comes to `t` or not `c`, so that the two mean the same just if the filter is no negated leaf.  Either
way the filter and the condition compile with the same parameters or fail alike, and the texts read as trees over the
same rendered conditions, each once and in order, with these truth values. -/
theorem conjoins_iff (key : String) (v : Value) :
    (∀ truth, ∃ t, f.meaning truth 0 = some t ∧
      (f &&& condition key v).meaning truth 0 = some (t.and (truth f.conditionCount)) ∧
      (f.andCondition key v).meaning truth 0 =
        some (if f.isNegatedLeaf then t.or (truth f.conditionCount).not else t.and (truth f.conditionCount))) ∧
    ((∀ truth, (f.andCondition key v).meaning truth 0 = (f &&& condition key v).meaning truth 0) ↔
      f.isNegatedLeaf = false) ∧
    ∀ (m : Model) (ps : List Value),
      (∀ e qs, (m.conditions (f.pairs ++ [(key, v)])).runWith ps = (.error e, qs) →
        ∀ g ∈ [f.andCondition key v, f &&& condition key v], (g.compile m).runWith ps = (.error e, qs)) ∧
      ∀ leaves qs, (m.conditions (f.pairs ++ [(key, v)])).runWith ps = (.ok leaves, qs) →
        ∃ own : Nat → Reading Predicate,
          leaves.map (fun c => Reading.ofText? (c.text Operand.text)) =
            (List.range (f.conditionCount + 1)).map (fun i => some (own i)) ∧
          ∀ g ∈ [f.andCondition key v, f &&& condition key v], ∃ (c : Condition Operand) (tree : Reading Nat),
            (g.compile m).runWith ps = (.ok (some c), qs) ∧
            Reading.ofText? (c.text Operand.text) = some (tree.bind own) ∧
            tree.leaves = List.range (f.conditionCount + 1) ∧ ∀ truth, g.meaning truth 0 = some (tree.eval truth) := by
  have meanings (truth : Nat → Truth) : ∃ t, f.meaning truth 0 = some t ∧
      (f &&& condition key v).meaning truth 0 = some (t.and (truth f.conditionCount)) ∧
      (f.andCondition key v).meaning truth 0 =
        some (if f.isNegatedLeaf then t.or (truth f.conditionCount).not else t.and (truth f.conditionCount)) := by
    obtain ⟨t, ht⟩ := exists_meaning nonempty truth
    exact ⟨t, ht, meaning_and key v ht, meaning_andCondition key v nonempty ht⟩
  have pairs : ∀ g ∈ [f.andCondition key v, f &&& condition key v], g.pairs = f.pairs ++ [(key, v)] := by
    simp [pairs_andCondition, pairs_and]
  refine ⟨meanings, ⟨fun same => ?_, fun positive truth => ?_⟩, fun m ps => ⟨fun e qs fails g mem => ?_, ?_⟩⟩
  · -- a condition that does not hold tells the two apart
    obtain ⟨t, _, beside, within⟩ := meanings fun _ => .no
    have equal := Option.some.inj (within.symm.trans ((same _).trans beside))
    cases hf : f.isNegatedLeaf with
    | false => rfl
    | true =>
      rw [hf] at equal
      cases t <;> cases equal
  · obtain ⟨t, _, beside, within⟩ := meanings truth
    rw [beside, within, positive]
    rfl
  · match hg : (g.compile m).runWith ps with
    | (.error d, rs) =>
      have same := compile_error g hg
      rw [pairs g mem, fails] at same
      cases same
      rfl
    | (.ok c, rs) =>
      obtain ⟨leaves, hl, _⟩ := compile_ok g hg
      rw [pairs g mem, fails] at hl
      cases hl
  · intro leaves qs renders
    obtain ⟨own, numbered, full⟩ := Model.exists_own renders
    rw [List.length_append, length_pairs, List.length_singleton] at numbered
    refine ⟨fun i => (own i).reading, ?_, fun g mem => ?_⟩
    · rw [numbered, List.map_map]
      exact List.map_congr_left fun i _ => Condition.ofText_text (full i)
    · have count := conditionCount_of_pairs f key v (pairs g mem)
      rw [← pairs g mem] at renders
      rw [← count] at numbered ⊢
      exact compile_reads g (by simp [Bool.eq_false_iff, isEmpty_iff, count]) renders numbered full

end More

/-- all but the items of size three -/
def otherSizes : Filter := ~~~condition "size" (.int 3)

/-- the same or the seventh item -/
def otherSizesOrSeventh : Filter := otherSizes ||| condition "id" (.int 7)

theorem conjoins_iff_otherSizesOrSeventh :
    otherSizesOrSeventh.isEmpty = false ∧
    (∀ truth, ((~~~otherSizesOrSeventh).andCondition "id" (.int 9)).meaning truth 0 =
      ((~~~otherSizesOrSeventh) &&& condition "id" (.int 9)).meaning truth 0) ∧
    ¬∀ truth, (otherSizes.andCondition "id" (.int 9)).meaning truth 0 =
      (otherSizes &&& condition "id" (.int 9)).meaning truth 0 := by
  have branch := conjoins_iff (f := ~~~otherSizesOrSeventh) rfl "id" (.int 9)
  have leaf := conjoins_iff (f := otherSizes) rfl "id" (.int 9)
  exact ⟨rfl, branch.2.1.mpr rfl, fun same => Bool.noConfusion (leaf.2.1.mp same)⟩

/-- **In a negated leaf a further condition is not conjoined**: the restriction to the seventh item becomes one to
whatever is not the seventh item with size three, so that an item with another size and another number passes. -/
theorem not_conjoined_in_negated_leaf :
    let within := otherSizes.andCondition "id" (.int 7)
    let beside := otherSizes &&& condition "id" (.int 7)
    (within.meaning (fun _ => .no) 0 = some .yes ∧ beside.meaning (fun _ => .no) 0 = some .no) ∧
    ∃ c d : Condition Operand,
      (within.compile Model.ofItems).runWith [] = (.ok (some c), [.int 3, .int 7]) ∧
      (beside.compile Model.ofItems).runWith [] = (.ok (some d), [.int 3, .int 7]) ∧
      c.text Operand.text = "NOT ((\"size\" = $1 AND \"id\" = $2))" ∧
      d.text Operand.text = "(NOT (\"size\" = $1) AND \"id\" = $2)" ∧
      c.truth Manager.integers [.int 3, .int 7] (1, some 2) = .yes ∧
      d.truth Manager.integers [.int 3, .int 7] (1, some 2) = .no := by
  refine ⟨⟨rfl, rfl⟩, _, _, rfl, rfl, ?_, ?_, ?_, ?_⟩ <;> decide +kernel

end Filter

end Tabula
