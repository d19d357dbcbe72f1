import Tabula.Proofs.Query.Exclusion
/-!
# How filters are made

A node of a filter could have children and conditions of its own, and compiling looks at the conditions only where there
are no children.  `Filter.Node` has room for both; `Filter.Recipe` is a way in which a filter can be made, carried out
on such nodes and with the functions of filters.  No node ever gets both, so that nodes and filters come to the same:
`Filter.Recipe.compiles` says that every condition of a filter that is made in any way is compiled, once and in order.
-/

namespace Tabula

open Sql (Condition Join Operand Reading)

namespace Filter

/-! ## Nodes -/

/-- a node with the filters and the conditions under its join -/
inductive Node where
  | mk (children : List Node) (conditions : List (String × Value)) (join : Join) (negated : Bool)

namespace Node

/-- no node of the tree has both children and conditions -/
inductive Pure : Node → Prop where
  | mk {children : List Node} {conditions : List (String × Value)} {join : Join} {negated : Bool}
    (one : children = [] ∨ conditions = []) (each : ∀ child ∈ children, Pure child) :
    Pure (mk children conditions join negated)

mutual

/-- the conditions of the tree from left to right, those of a node in front of those of its children -/
def pairs : Node → List (String × Value)
  | mk children conditions _ _ => conditions ++ pairsAll children

def pairsAll : List Node → List (String × Value)
  | [] => []
  | n :: ns => pairs n ++ pairsAll ns

end

mutual

/-- the number of conditions in the tree -/
def conditionCount : Node → Nat
  | mk children conditions _ _ => conditions.length + conditionCounts children

def conditionCounts : List Node → Nat
  | [] => 0
  | n :: ns => conditionCount n + conditionCounts ns

end

mutual

/-- whether the tree has no condition at all -/
def isEmpty : Node → Bool
  | mk children conditions _ _ => conditions.isEmpty && allEmpty children

def allEmpty : List Node → Bool
  | [] => true
  | n :: ns => isEmpty n && allEmpty ns

end

mutual

/-- the filter that compiling sees: the conditions count only where there are no children -/
def filter : Node → Filter
  | mk children conditions join negated =>
    if children.isEmpty then leaf conditions join negated else branch (filters children) join negated

def filters : List Node → List Filter
  | [] => []
  | n :: ns => filter n :: filters ns

end

/-! ### Making nodes -/

def empty : Node := mk [] [] .and false

def ofPairs (pairs : List (String × Value)) : Node := mk [] pairs .and false

def condition (key : String) (v : Value) : Node := ofPairs [(key, v)]

def compound (children : List Node) (join : Join) : Node := mk children [] join false

/-- children and conditions under a join; beside children the conditions become one more child -/
def withConditions (children : List Node) (join : Join) (conditions : List (String × Value)) : Node :=
  if children.isEmpty then mk [] conditions join false
  else if conditions.isEmpty then compound children join
  else compound (children ++ [ofPairs conditions]) join

def both (a b : Node) : Node := compound [a, b] .and

def either (a b : Node) : Node := compound [a, b] .or

def negate : Node → Node
  | mk children conditions join negated => mk children conditions join (!negated)

/-- one more condition, in a node without children or beside one that has some -/
def andCondition (key : String) (v : Value) : Node → Node
  | mk children conditions join negated =>
    if children.isEmpty then mk children (conditions ++ [(key, v)]) join negated
    else both (mk children conditions join negated) (condition key v)

/-! ### Nodes stay pure -/

variable {n : Node} {ns : List Node}

theorem pure_leaf (conditions : List (String × Value)) (join : Join) (negated : Bool) :
    Pure (mk [] conditions join negated) := .mk (.inl rfl) nofun

theorem pure_compound (each : ∀ n ∈ ns, n.Pure) (join : Join) : Pure (compound ns join) := .mk (.inr rfl) each

theorem pure_withConditions (each : ∀ n ∈ ns, n.Pure) (join : Join) (conditions : List (String × Value)) :
    Pure (withConditions ns join conditions) := by
  unfold withConditions
  split
  · exact pure_leaf conditions join false
  · split
    · exact pure_compound each join
    · refine pure_compound (fun n mem => ?_) join
      rcases List.mem_append.mp mem with mem | mem
      · exact each n mem
      · exact List.mem_singleton.mp mem ▸ pure_leaf conditions .and false

theorem Pure.pair {a b : Node} (ha : a.Pure) (hb : b.Pure) (join : Join) : Pure (compound [a, b] join) :=
  pure_compound (by simpa using ⟨ha, hb⟩) join

theorem Pure.negate (h : n.Pure) : n.negate.Pure := by
  cases h with
  | mk one each => exact .mk one each

theorem Pure.andCondition (h : n.Pure) (key : String) (v : Value) : (n.andCondition key v).Pure := by
  obtain ⟨children, conditions, join, negated⟩ := n
  cases children with
  | nil => exact pure_leaf (conditions ++ [(key, v)]) join negated
  | cons child rest => exact h.pair (pure_leaf [(key, v)] .and false) .and

/-! ### Nodes and filters come to the same -/

theorem filters_append (ms ns : List Node) : filters (ms ++ ns) = filters ms ++ filters ns := by
  induction ms with
  | nil => rfl
  | cons m ms ih => rw [List.cons_append, filters, ih, filters, List.cons_append]

theorem isEmpty_filters (ns : List Node) : (filters ns).isEmpty = ns.isEmpty := by cases ns <;> rfl

theorem filter_compound (ns : List Node) (join : Join) :
    (compound ns join).filter = Filter.compound (filters ns) join := by
  rw [compound, filter, Filter.compound, isEmpty_filters]

theorem filter_withConditions (ns : List Node) (join : Join) (conditions : List (String × Value)) :
    (withConditions ns join conditions).filter = Filter.withConditions (filters ns) join conditions := by
  unfold withConditions Filter.withConditions
  rw [isEmpty_filters]
  split
  · rfl
  · next some =>
    split
    · rw [filter_compound, Filter.compound, isEmpty_filters, if_neg some]
    · have more : ¬(filters (ns ++ [ofPairs conditions])).isEmpty = true := by simp [isEmpty_filters]
      rw [filter_compound, Filter.compound, if_neg more, filters_append]
      rfl

theorem filter_negate (n : Node) : n.negate.filter = ~~~n.filter := by
  obtain ⟨children, conditions, join, negated⟩ := n
  rw [negate, filter, filter]
  split <;> rfl

theorem filter_andCondition (n : Node) (key : String) (v : Value) :
    (n.andCondition key v).filter = n.filter.andCondition key v := by
  obtain ⟨children, conditions, join, negated⟩ := n
  cases children <;> rfl

/-! ### The conditions of a node -/

theorem pairs_compound (ns : List Node) (join : Join) : (compound ns join).pairs = pairsAll ns := rfl

theorem pairs_pair (a b : Node) (join : Join) : (compound [a, b] join).pairs = a.pairs ++ b.pairs := by
  rw [pairs_compound, pairsAll, pairsAll, pairsAll, List.append_nil]

theorem pairsAll_append (ms ns : List Node) : pairsAll (ms ++ ns) = pairsAll ms ++ pairsAll ns := by
  induction ms with
  | nil => rfl
  | cons m ms ih => rw [List.cons_append, pairsAll, ih, pairsAll, List.append_assoc]

theorem pairs_withConditions (ns : List Node) (join : Join) (conditions : List (String × Value)) :
    (withConditions ns join conditions).pairs = pairsAll ns ++ conditions := by
  unfold withConditions
  split
  · next childless =>
    rw [List.isEmpty_iff.mp childless]
    exact List.append_nil conditions
  · split
    · next none => rw [List.isEmpty_iff.mp none, List.append_nil, pairs_compound]
    · rw [pairs_compound, pairsAll_append]
      simp [pairsAll, ofPairs, pairs]

theorem pairs_andCondition (n : Node) (key : String) (v : Value) :
    (n.andCondition key v).pairs = n.pairs ++ [(key, v)] := by
  obtain ⟨children, conditions, join, negated⟩ := n
  cases children with
  | nil => simp [andCondition, pairs, pairsAll]
  | cons child rest => exact pairs_pair (mk (child :: rest) conditions join negated) (condition key v) .and

theorem pairs_negate (n : Node) : n.negate.pairs = n.pairs := by cases n; rfl

mutual

theorem length_pairs (n : Node) : n.pairs.length = n.conditionCount := by
  cases n with
  | mk children conditions join negated =>
    rw [pairs, List.length_append, length_pairsAll children, conditionCount]

theorem length_pairsAll (ns : List Node) : (pairsAll ns).length = conditionCounts ns := by
  cases ns with
  | nil => rfl
  | cons n ns => rw [pairsAll, List.length_append, length_pairs n, length_pairsAll ns, conditionCounts]

end

mutual

theorem isEmpty_iff (n : Node) : n.isEmpty = true ↔ n.conditionCount = 0 := by
  cases n with
  | mk children conditions join negated =>
    rw [isEmpty, conditionCount, Bool.and_eq_true, List.isEmpty_iff, allEmpty_iff children, Nat.add_eq_zero_iff,
      List.length_eq_zero_iff]

theorem allEmpty_iff (ns : List Node) : allEmpty ns = true ↔ conditionCounts ns = 0 := by
  cases ns with
  | nil => exact iff_of_true rfl rfl
  | cons n ns => rw [allEmpty, conditionCounts, Bool.and_eq_true, isEmpty_iff n, allEmpty_iff ns, Nat.add_eq_zero_iff]

end

mutual

/-- the filter of a pure node has all of its conditions -/
theorem pairs_filter (n : Node) (h : n.Pure) : n.filter.pairs = n.pairs := by
  cases h with
  | @mk children conditions join negated one each =>
    cases children with
    | nil => exact (List.append_nil conditions).symm
    | cons child rest =>
      obtain rfl : conditions = [] := by simpa using one
      exact pairsAll_filters (child :: rest) each

theorem pairsAll_filters (ns : List Node) (h : ∀ n ∈ ns, n.Pure) : Filter.pairsAll (filters ns) = pairsAll ns := by
  cases ns with
  | nil => rfl
  | cons n ns =>
    rw [List.forall_mem_cons] at h
    rw [filters, Filter.pairsAll, pairs_filter n h.1, pairsAll_filters ns h.2, pairsAll]

end

end Node

mutual

theorem isEmpty_iff (f : Filter) : f.isEmpty = true ↔ f.conditionCount = 0 := by
  cases f with
  | leaf conditions join negated => rw [isEmpty, conditionCount, List.isEmpty_iff, List.length_eq_zero_iff]
  | branch children join negated => rw [isEmpty, conditionCount, allEmpty_iff children]

theorem allEmpty_iff (fs : List Filter) : allEmpty fs = true ↔ conditionCounts fs = 0 := by
  cases fs with
  | nil => exact iff_of_true rfl rfl
  | cons f fs => rw [allEmpty, conditionCounts, Bool.and_eq_true, isEmpty_iff f, allEmpty_iff fs, Nat.add_eq_zero_iff]

end

/-! ## Recipes -/

/-- a way in which a filter can be made -/
inductive Recipe where
  | empty
  | condition (key : String) (v : Value)
  | ofPairs (pairs : List (String × Value))
  | compound (parts : List Recipe) (join : Join)
  | withConditions (parts : List Recipe) (join : Join) (conditions : List (String × Value))
  | andCondition (r : Recipe) (key : String) (v : Value)
  | both (r s : Recipe)
  | either (r s : Recipe)
  | negate (r : Recipe)

namespace Recipe

mutual

/-- the filter made in this way -/
def made : Recipe → Filter
  | empty => Filter.empty
  | condition key v => Filter.condition key v
  | ofPairs pairs => Filter.ofPairs pairs
  | compound parts join => Filter.compound (madeAll parts) join
  | withConditions parts join conditions => Filter.withConditions (madeAll parts) join conditions
  | andCondition r key v => (made r).andCondition key v
  | both r s => made r &&& made s
  | either r s => made r ||| made s
  | negate r => ~~~made r

def madeAll : List Recipe → List Filter
  | [] => []
  | r :: rs => made r :: madeAll rs

end

mutual

/-- the node made in this way -/
def node : Recipe → Node
  | empty => .empty
  | condition key v => .condition key v
  | ofPairs pairs => .ofPairs pairs
  | compound parts join => .compound (nodes parts) join
  | withConditions parts join conditions => .withConditions (nodes parts) join conditions
  | andCondition r key v => (node r).andCondition key v
  | both r s => (node r).both (node s)
  | either r s => (node r).either (node s)
  | negate r => (node r).negate

def nodes : List Recipe → List Node
  | [] => []
  | r :: rs => node r :: nodes rs

end

mutual

/-- the conditions that go into a recipe, as they are written -/
def pairs : Recipe → List (String × Value)
  | empty => []
  | condition key v => [(key, v)]
  | ofPairs given => given
  | compound parts _ => pairsAll parts
  | withConditions parts _ given => pairsAll parts ++ given
  | andCondition r key v => pairs r ++ [(key, v)]
  | both r s | either r s => pairs r ++ pairs s
  | negate r => pairs r

def pairsAll : List Recipe → List (String × Value)
  | [] => []
  | r :: rs => pairs r ++ pairsAll rs

end

mutual

theorem pure_node (r : Recipe) : r.node.Pure := by
  cases r with
  | empty => exact Node.pure_leaf [] .and false
  | condition key v => exact Node.pure_leaf [(key, v)] .and false
  | ofPairs pairs => exact Node.pure_leaf pairs .and false
  | compound parts join => exact Node.pure_compound (pure_nodes parts) join
  | withConditions parts join conditions => exact Node.pure_withConditions (pure_nodes parts) join conditions
  | andCondition r key v => exact (pure_node r).andCondition key v
  | both r s => exact (pure_node r).pair (pure_node s) .and
  | either r s => exact (pure_node r).pair (pure_node s) .or
  | negate r => exact (pure_node r).negate

theorem pure_nodes (rs : List Recipe) : ∀ n ∈ nodes rs, n.Pure := by
  cases rs with
  | nil => exact nofun
  | cons r rs =>
    rw [nodes, List.forall_mem_cons]
    exact ⟨pure_node r, pure_nodes rs⟩

end

mutual

theorem filter_node (r : Recipe) : r.node.filter = r.made := by
  cases r with
  | empty | condition | ofPairs => rfl
  | compound parts join => rw [node, Node.filter_compound, filters_nodes parts, made]
  | withConditions parts join conditions => rw [node, Node.filter_withConditions, filters_nodes parts, made]
  | andCondition r key v => rw [node, Node.filter_andCondition, filter_node r, made]
  | both r s =>
    rw [made, ← filter_node r, ← filter_node s]
    rfl
  | either r s =>
    rw [made, ← filter_node r, ← filter_node s]
    rfl
  | negate r => rw [node, Node.filter_negate, filter_node r, made]

theorem filters_nodes (rs : List Recipe) : Node.filters (nodes rs) = madeAll rs := by
  cases rs with
  | nil => rfl
  | cons r rs => rw [nodes, Node.filters, filter_node r, filters_nodes rs, madeAll]

end

mutual

theorem pairs_node (r : Recipe) : r.node.pairs = r.pairs := by
  cases r with
  | empty | condition | ofPairs => exact List.append_nil _
  | compound parts join => rw [node, Node.pairs_compound, pairsAll_nodes parts, pairs]
  | withConditions parts join conditions => rw [node, Node.pairs_withConditions, pairsAll_nodes parts, pairs]
  | andCondition r key v => rw [node, Node.pairs_andCondition, pairs_node r, pairs]
  | both r s => rw [node, Node.both, Node.pairs_pair, pairs_node r, pairs_node s, pairs]
  | either r s => rw [node, Node.either, Node.pairs_pair, pairs_node r, pairs_node s, pairs]
  | negate r => rw [node, Node.pairs_negate, pairs_node r, pairs]

theorem pairsAll_nodes (rs : List Recipe) : Node.pairsAll (nodes rs) = pairsAll rs := by
  cases rs with
  | nil => rfl
  | cons r rs => rw [nodes, Node.pairsAll, pairs_node r, pairsAll_nodes rs, pairsAll]

end

theorem pairs_made (r : Recipe) : r.made.pairs = r.node.pairs := by
  rw [← filter_node, Node.pairs_filter r.node (pure_node r)]

theorem conditionCount_made (r : Recipe) : r.made.conditionCount = r.node.conditionCount := by
  rw [← Filter.length_pairs, pairs_made, Node.length_pairs]

theorem isEmpty_made (r : Recipe) : r.made.isEmpty = r.node.isEmpty := by
  rw [Bool.eq_iff_iff, Filter.isEmpty_iff, Node.isEmpty_iff, conditionCount_made]

/-! ## Compilations of made filters -/

/-- the elements of a list under their numbers -/
theorem exists_numbered {α : Type} (as : List α) (other : α) :
    ∃ own : Nat → α, as = (List.range as.length).map own := by
  refine ⟨fun i => as.getD i other, List.ext_getElem (by simp) fun i inside _ => ?_⟩
  simp [inside]

/-- **Every condition of a made filter is compiled once.**  However a filter is made, no node of it has both children
and conditions, and its conditions from left to right are those that went into it.  It counts just these and is empty
just if there are none.  When it compiles, each of them is rendered, from left to right, and the result is a shape that
holds each rendered condition once, in this order; there is no result just if the filter is empty. -/
theorem compiles (r : Recipe) :
    r.node.Pure ∧ r.node.filter = r.made ∧ r.node.pairs = r.pairs ∧
    r.made.conditionCount = r.node.conditionCount ∧ r.made.isEmpty = r.node.isEmpty ∧
    (r.made.isEmpty = true ↔ r.made.conditionCount = 0) ∧
    ∀ m ps c qs, (r.made.compile m).runWith ps = (.ok c, qs) →
      (c = none ↔ r.made.isEmpty = true) ∧
      ∃ rendered : List (Condition Operand), (m.conditions r.pairs).runWith ps = (.ok rendered, qs) ∧
        rendered.length = r.made.conditionCount ∧
        ∀ d, c = some d → ∃ (shape : Reading Nat) (own : Nat → Condition Operand),
          shape.leaves = List.range r.made.conditionCount ∧
          rendered = (List.range r.made.conditionCount).map own ∧ d = shape.fill own := by
  refine ⟨pure_node r, filter_node r, pairs_node r, conditionCount_made r, isEmpty_made r, Filter.isEmpty_iff _,
    fun m ps c qs h => ?_⟩
  obtain ⟨rendered, renders, filled⟩ := compile_ok r.made h
  have length := (Model.length_conditions renders).trans r.made.length_pairs
  rw [pairs_made, pairs_node] at renders
  refine ⟨compile_eq_none r.made h, rendered, renders, length, fun d some => ?_⟩
  obtain ⟨own, numbered⟩ := exists_numbered rendered (.isNull (.column ""))
  rw [length] at numbered
  have whole := filled 0 own (numbered.trans (congrArg (List.map own) List.range_eq_range'))
  rw [some] at whole
  obtain ⟨shape, hs, rfl⟩ := Option.map_eq_some_iff.mp whole.symm
  have leaves := leaves_skeleton 0 r.made
  rw [hs, Option.toList_some, List.flatMap_singleton, ← List.range_eq_range'] at leaves
  exact ⟨shape, own, leaves, numbered, rfl⟩

/-- all but the items that are small or the seventh and are not the ninth -/
def otherItems : Recipe :=
  .negate (.andCondition (.either (.condition "size__lt" (.int 3)) (.withConditions [.empty] .or [("id", .int 7)]))
    "pk__not" (.int 9))

theorem compiles_otherItems : ∃ (d : Condition Operand) (qs : List Value) (shape : Reading Nat)
      (own : Nat → Condition Operand),
    (otherItems.made.compile Model.ofItems).runWith [] = (.ok (some d), qs) ∧
    (Model.ofItems.conditions [("size__lt", .int 3), ("id", .int 7), ("pk__not", .int 9)]).runWith [] =
      (.ok ([0, 1, 2].map own), qs) ∧
    shape.leaves = [0, 1, 2] ∧ d = shape.fill own := by
  have made : ∃ d qs, (otherItems.made.compile Model.ofItems).runWith [] = (.ok (some d), qs) := ⟨_, _, rfl⟩
  obtain ⟨d, qs, done⟩ := made
  obtain ⟨_, rendered, renders, _, shaped⟩ := (compiles otherItems).2.2.2.2.2.2 Model.ofItems [] (some d) qs done
  obtain ⟨shape, own, leaves, rfl, filled⟩ := shaped d rfl
  exact ⟨d, qs, shape, own, done, renders, leaves, filled⟩

end Recipe

end Filter

end Tabula
