import Tabula.Proofs.Query.Conditions
/-!
# What compiled filters mean

The direct reading of filters in three-valued logic, and the main statement: the text of a restriction, read by the
precedence of NOT over AND over OR, comes to the direct reading, whatever its conditions come to.
-/

namespace Tabula

open Sql (Condition Join Operand Predicate Reading Truth)

/-- a truth value, negated if asked -/
def Sql.Truth.negatedIf (negated : Bool) (t : Truth) : Truth := if negated then t.not else t

namespace Filter

mutual

/-- the truth value of a filter, given that of its pairs, which are numbered from `first` on: a leaf is the conjunction
of its pairs, a branch joins its children, a mark of negation is the negation of the whole, and what has no pair has no
truth value and is left out -/
def meaning (truth : Nat → Truth) (first : Nat) : Filter → Option Truth
  | leaf cs _ negated => (Truth.joined? .and ((List.range' first cs.length).map truth)).map (.negatedIf negated)
  | branch fs join negated => (Truth.joined? join (meanings truth first fs)).map (.negatedIf negated)

def meanings (truth : Nat → Truth) (first : Nat) : List Filter → List Truth
  | [] => []
  | f :: fs => (meaning truth first f).toList ++ meanings truth (first + conditionCount f) fs

end

/-- the truth value of filters that all have to hold -/
def meaningAll (truth : Nat → Truth) (fs : List Filter) : Truth := Truth.joined .and (meanings truth 0 fs)

/-! ## Skeletons have the meaning of their filters -/

theorem eval_grouped? (truth : Nat → Truth) (join : Join) (negated : Bool) (rs : List (Reading Nat)) :
    ((Reading.grouped? join rs).map (.negatedIf negated)).map (Reading.eval truth) =
      (Truth.joined? join (rs.map (Reading.eval truth))).map (.negatedIf negated) := by
  match rs with
  | [] => rfl
  | r :: rs =>
    cases negated <;>
      simp [Reading.grouped?, Truth.joined?, Reading.negatedIf, Truth.negatedIf, Reading.eval, Reading.eval_grouped]

mutual

theorem eval_skeleton (truth : Nat → Truth) (first : Nat) (f : Filter) :
    (f.skeleton first).map (Reading.eval truth) = f.meaning truth first := by
  cases f with
  | leaf cs join negated =>
    rw [skeleton, eval_grouped?, meaning, List.map_map]
    rfl
  | branch fs join negated => rw [skeleton, eval_grouped?, meaning, eval_skeletons truth first fs]

theorem eval_skeletons (truth : Nat → Truth) (first : Nat) (fs : List Filter) :
    (skeletons first fs).map (Reading.eval truth) = meanings truth first fs := by
  cases fs with
  | nil => rfl
  | cons f fs =>
    rw [skeletons, List.map_append, eval_skeletons truth _ fs, meanings, ← eval_skeleton truth first f]
    cases f.skeleton first <;> rfl

end

end Filter

namespace Model

theorem isFull_conditions {m : Model} {pairs : List (String × Value)} {ps qs : List Value}
    {cs : List (Condition Operand)} (h : (m.conditions pairs).runWith ps = (.ok cs, qs)) :
    ∀ c ∈ cs, c.isFull = true := by
  induction pairs generalizing ps cs with
  | nil =>
    simp only [conditions, Binding.runWith_pure, Prod.mk.injEq, Except.ok.injEq] at h
    simp [← h.1]
  | cons p rest ih =>
    obtain ⟨c, ds, rs, hc, hd, rfl⟩ := conditions_cons_ok h
    rw [List.forall_mem_cons]
    exact ⟨(condition_ok hc).isFull, ih hd⟩

/-- rendered conditions under their numbers -/
theorem exists_own {m : Model} {pairs : List (String × Value)} {ps qs : List Value} {cs : List (Condition Operand)}
    (h : (m.conditions pairs).runWith ps = (.ok cs, qs)) :
    ∃ own : Nat → Condition Operand, cs = (List.range pairs.length).map own ∧ ∀ i, (own i).isFull = true := by
  refine ⟨fun i => cs.getD i (.isNull (.column "")), ?_, fun i => ?_⟩
  · rw [← length_conditions h]
    exact List.ext_getElem (by simp) fun i inside _ => by simp [inside]
  · by_cases inside : i < cs.length
    · simpa [inside] using isFull_conditions h cs[i] (List.getElem_mem inside)
    · simp [inside, Condition.isFull]

/-- a compiled restriction is its skeletons, filled with the conditions of all pairs -/
theorem restriction_ok {m : Model} {fs : List Filter} {ps qs : List Value} {rows : Sql.Restriction}
    (h : (m.restriction fs).runWith ps = (.ok rows, qs)) :
    ∃ (leaves : List (Condition Operand)) (own : Nat → Condition Operand),
      (m.conditions (Filter.pairsAll fs)).runWith ps = (.ok leaves, qs) ∧
      leaves = (List.range leaves.length).map own ∧ (∀ i, (own i).isFull = true) ∧
      rows = Sql.restrict ((Filter.skeletons 0 fs).map (Reading.fill own)) := by
  obtain ⟨cs, hc, rfl⟩ := Binding.runWith_map_ok h
  obtain ⟨leaves, hl, shape⟩ := Filter.compileAll_ok fs hc
  obtain ⟨own, numbered, full⟩ := exists_own hl
  refine ⟨leaves, own, hl, by rwa [length_conditions hl], full, ?_⟩
  rw [Filter.length_pairsAll, List.range_eq_range'] at numbered
  rw [shape 0 own numbered]

/-- **Compiling keeps the meaning of filters.**  Each pair has a condition whose text reads as some `own i`.  The text of
the restriction reads as a tree over the numbers of the pairs, each once and in order, with these readings in their
places, and the tree has the truth value of the direct reading, whatever the truth values of the pairs.  Without any
text the direct reading is true. -/
theorem restriction_reads {m : Model} {fs : List Filter} {ps qs : List Value} {rows : Sql.Restriction}
    (h : (m.restriction fs).runWith ps = (.ok rows, qs)) :
    ∃ (leaves : List (Condition Operand)) (own : Nat → Reading Predicate),
      (m.conditions (Filter.pairsAll fs)).runWith ps = (.ok leaves, qs) ∧
      leaves.map (fun c => Reading.ofText? (c.text Operand.text)) =
        (List.range (Filter.pairsAll fs).length).map (fun i => some (own i)) ∧
      (rows = none → ∀ truth, Filter.meaningAll truth fs = .yes) ∧
      ∀ cs, rows = some cs → ∃ tree : Reading Nat,
        Reading.ofText? (Condition.listText Operand.text cs) = some (tree.bind own) ∧
        tree.leaves = List.range (Filter.pairsAll fs).length ∧
        ∀ truth, tree.eval truth = Filter.meaningAll truth fs := by
  obtain ⟨leaves, own, hl, numbered, full, rfl⟩ := restriction_ok h
  have length := length_conditions hl
  have proper := Filter.all_isProper_skeletons 0 fs
  have meanings := fun truth => Filter.eval_skeletons truth 0 fs
  refine ⟨leaves, fun i => (own i).reading, hl, ?_, ?_, ?_⟩
  · rw [← length]
    conv => lhs; rw [numbered]
    simp [Condition.ofText_text (full _)]
  · intro hnone truth
    have empty : Filter.skeletons 0 fs = [] := by simpa [Sql.restrict] using hnone
    rw [Filter.meaningAll, ← meanings truth, empty]
    rfl
  · intro cs hsome
    have nonempty : (Filter.skeletons 0 fs).map (Reading.fill own) ≠ [] ∧
        (Filter.skeletons 0 fs).map (Reading.fill own) = cs := by
      simpa [Sql.restrict] using hsome
    obtain ⟨hne, rfl⟩ := nonempty
    refine ⟨.grouped .and (Filter.skeletons 0 fs), ?_, ?_, ?_⟩
    · rw [Condition.ofText_listText hne ?_, Reading.bind_grouped, List.map_map]
      · refine congrArg (fun rs => some (Reading.grouped .and rs)) (List.map_congr_left fun r hr => ?_)
        exact Reading.reading_fill own r (List.all_eq_true.mp proper r hr)
      · intro c hc
        obtain ⟨r, hr, rfl⟩ := List.mem_map.mp hc
        exact Reading.isFull_fill full r (List.all_eq_true.mp proper r hr)
    · rw [Reading.leaves_grouped, Filter.leaves_skeletons, Filter.length_pairsAll, List.range_eq_range']
    · intro truth
      rw [Reading.eval_grouped, meanings truth, Filter.meaningAll]

/-- items with a size that may be missing -/
def ofItems : Model where
  name := "Item"
  table := "item"
  database := defaultDatabase
  isAbstract := false
  description := none
  uniqueTogether := []
  indexes := []
  fields := [(Field.new "id" .int).asKey, (Field.new "size" .int).optional]
  key := [0]

/-- items that are neither small nor without a size, but for two of them -/
def itemFilters : List Filter :=
  [~~~(Filter.condition "size__lt" (.int 3) ||| (Filter.condition "size__isnull" (.bool true) &&& Filter.empty)),
    Filter.ofPairs [("id__not", .int 7), ("pk__not", .int 9)]]

theorem restriction_reads_items : ∃ rows qs, (ofItems.restriction itemFilters).runWith [.bool true] = (.ok rows, qs) ∧
    rows.map (Condition.listText Operand.text) = some
      "NOT ((\"size\" < $2 OR \"size\" IS NULL)) AND ((\"id\" <> $3 OR \"id\" IS NULL) AND (\"id\" <> $4 OR \"id\" IS NULL))" ∧
    ∃ (leaves : List (Condition Operand)) (own : Nat → Reading Predicate),
      (ofItems.conditions (Filter.pairsAll itemFilters)).runWith [.bool true] = (.ok leaves, qs) ∧
      leaves.map (fun c => Reading.ofText? (c.text Operand.text)) =
        (List.range (Filter.pairsAll itemFilters).length).map (fun i => some (own i)) ∧
      (rows = none → ∀ truth, Filter.meaningAll truth itemFilters = .yes) ∧
      ∀ cs, rows = some cs → ∃ tree : Reading Nat,
        Reading.ofText? (Condition.listText Operand.text cs) = some (tree.bind own) ∧
        tree.leaves = List.range (Filter.pairsAll itemFilters).length ∧
        ∀ truth, tree.eval truth = Filter.meaningAll truth itemFilters := by
  have text : ((ofItems.restriction itemFilters).runWith [.bool true]).1.toOption.map
      (fun rows => rows.map (Condition.listText Operand.text)) = some (some
      "NOT ((\"size\" < $2 OR \"size\" IS NULL)) AND ((\"id\" <> $3 OR \"id\" IS NULL) AND (\"id\" <> $4 OR \"id\" IS NULL))") := by
    decide +kernel
  match hr : (ofItems.restriction itemFilters).runWith [.bool true] with
  | (.ok rows, qs) =>
    rw [hr] at text
    exact ⟨rows, qs, rfl, Option.some.inj text, restriction_reads hr⟩
  | (.error e, qs) =>
    rw [hr] at text
    exact absurd text (by simp [Except.toOption])

end Model

end Tabula
