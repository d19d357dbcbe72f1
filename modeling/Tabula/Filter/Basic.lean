import Tabula.Sql.Condition
import Tabula.Value.Inspect
import Tabula.Text.Case
/-!
# Filters

A filter is a tree of conditions.  A leaf holds conditions, key and argument, that all have to hold; a branch
joins other filters.  Negation is a mark on a node, so negating twice gives the same filter back.  The
constructors are reached through `empty`, `condition`, `ofPairs`, `compound`, `&&&`, `|||` and `~~~`.
-/

namespace Tabula

open Sql (Join)

/-- reads the keyword of a join in any case -/
def Sql.Join.ofText? (s : String) : Outcome Join :=
  let word := Text.raised s
  if word = "AND" then .ok .and
  else if word = "OR" then .ok .or
  else failure .operational ("join_type must be AND or OR, got '" ++ s ++ "'")

/-- a tree of conditions -/
inductive Filter where
  /-- conditions that all have to hold; the join is what the node was made with -/
  | leaf (conditions : List (String × Value)) (join : Join) (negated : Bool)
  /-- filters under a join -/
  | branch (children : List Filter) (join : Join) (negated : Bool)

namespace Filter

/-- no condition at all: everything passes -/
def empty : Filter := leaf [] .and false

instance : Inhabited Filter := ⟨empty⟩

/-- one condition -/
def condition (key : String) (v : Value) : Filter := leaf [(key, v)] .and false

/-- conditions that all have to hold -/
def ofPairs (pairs : List (String × Value)) : Filter := leaf pairs .and false

/-- filters under a join -/
def compound (children : List Filter) (join : Join) : Filter :=
  if children.isEmpty then leaf [] join false else branch children join false

/-- filters and conditions under a join; the conditions become one more child -/
def withConditions (children : List Filter) (join : Join) (conditions : List (String × Value)) : Filter :=
  if children.isEmpty then leaf conditions join false
  else if conditions.isEmpty then branch children join false
  else branch (children ++ [ofPairs conditions]) join false

/-- both filters hold -/
def both (a b : Filter) : Filter := compound [a, b] .and

/-- one of the filters holds -/
def either (a b : Filter) : Filter := compound [a, b] .or

/-- turns the mark of negation -/
def negate : Filter → Filter
  | leaf cs j n => leaf cs j (!n)
  | branch fs j n => branch fs j (!n)

instance : AndOp Filter := ⟨both⟩
instance : OrOp Filter := ⟨either⟩
instance : Complement Filter := ⟨negate⟩

/-- adds a condition: to a leaf itself, beside a branch -/
def andCondition (f : Filter) (key : String) (v : Value) : Filter :=
  match f with
  | leaf cs j n => leaf (cs ++ [(key, v)]) j n
  | branch .. => both f (condition key v)

def isNegated : Filter → Bool
  | leaf _ _ n => n
  | branch _ _ n => n

def join : Filter → Join
  | leaf _ j _ => j
  | branch _ j _ => j

def children : Filter → List Filter
  | leaf .. => []
  | branch fs _ _ => fs

def conditions : Filter → List (String × Value)
  | leaf cs _ _ => cs
  | branch .. => []

mutual

/-- the number of conditions in the tree -/
def conditionCount : Filter → Nat
  | leaf cs _ _ => cs.length
  | branch fs _ _ => conditionCounts fs

def conditionCounts : List Filter → Nat
  | [] => 0
  | f :: fs => conditionCount f + conditionCounts fs

end

mutual

/-- whether the tree has no condition at all -/
def isEmpty : Filter → Bool
  | leaf cs _ _ => cs.isEmpty
  | branch fs _ _ => allEmpty fs

def allEmpty : List Filter → Bool
  | [] => true
  | f :: fs => isEmpty f && allEmpty fs

end

/-- equality of conditions, one by one -/
def sameConditions : List (String × Value) → List (String × Value) → Bool
  | [], [] => true
  | (k, v) :: xs, (l, w) :: ys => k == l && v.same w && sameConditions xs ys
  | _, _ => false

mutual

/-- equality of trees: the same shape with equal values -/
def same : Filter → Filter → Bool
  | leaf cs j n, leaf ds k o => sameConditions cs ds && j == k && n == o
  | branch fs j n, branch gs k o => sameAll fs gs && j == k && n == o
  | _, _ => false

def sameAll : List Filter → List Filter → Bool
  | [], [] => true
  | f :: fs, g :: gs => same f g && sameAll fs gs
  | _, _ => false

end

/-- the name of a join as shown to a programmer -/
def joinName : Join → String
  | .and => "And"
  | .or => "Or"

/-- a node shown with its four parts -/
def inspectNode (children conditions : List String) (j : Join) (n : Bool) : String :=
  Text.shownRecord "Q" [("children", Text.shownList children), ("filters", Text.shownList conditions),
    ("join_type", joinName j), ("negated", Text.shownBool n)]

mutual

/-- the text that shows a filter to a programmer -/
def inspect : Filter → String
  | leaf cs j n => inspectNode [] (cs.map fun kv => Text.shownCall "" [Text.shown kv.1, kv.2.inspect]) j n
  | branch fs j n => inspectNode (inspectAll fs) [] j n

def inspectAll : List Filter → List String
  | [] => []
  | f :: fs => inspect f :: inspectAll fs

end

theorem negate_negate (f : Filter) : f.negate.negate = f := by
  cases f <;> simp [negate]

end Filter

end Tabula
