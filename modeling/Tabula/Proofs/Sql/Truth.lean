import Tabula.Sql.Condition
/-!
# Three-valued truth

A condition on a row is true, false or unknown: a comparison with a missing value is unknown.  Conjunction and
disjunction of several values are taken from the left, over nothing they are true and false.
-/

namespace Tabula.Sql

/-- what a condition can come to -/
inductive Truth where
  | yes | no | unknown
  deriving DecidableEq

namespace Truth

def not : Truth → Truth
  | yes => no
  | no => yes
  | unknown => unknown

def and : Truth → Truth → Truth
  | no, _ => no
  | _, no => no
  | yes, yes => yes
  | _, _ => unknown

def or : Truth → Truth → Truth
  | yes, _ => yes
  | _, yes => yes
  | no, no => no
  | _, _ => unknown

/-- the truth value of a decided question -/
def ofBool (b : Bool) : Truth := if b then yes else no

/-- values under a join -/
def joined : Join → List Truth → Truth
  | .and, ts => ts.foldr and yes
  | .or, ts => ts.foldr or no

@[simp] theorem joined_singleton (j : Join) (t : Truth) : joined j [t] = t := by
  cases j <;> cases t <;> rfl

/-- values under a join, if there are any -/
def joined? (j : Join) : List Truth → Option Truth
  | [] => none
  | ts => some (joined j ts)

theorem all_eq_yes (ts : List Truth) : joined .and ts = yes ↔ ∀ t ∈ ts, t = yes := by
  induction ts with
  | nil => simp [joined]
  | cons t ts ih =>
    have h : joined .and (t :: ts) = t.and (joined .and ts) := rfl
    rw [h, List.forall_mem_cons, ← ih]
    generalize joined .and ts = u
    cases t <;> cases u <;> decide

theorem any_eq_yes (ts : List Truth) : joined .or ts = yes ↔ yes ∈ ts := by
  induction ts with
  | nil => simp [joined]
  | cons t ts ih =>
    have h : joined .or (t :: ts) = t.or (joined .or ts) := rfl
    rw [h, List.mem_cons, ← ih]
    generalize joined .or ts = u
    cases t <;> cases u <;> decide

theorem any_eq_unknown (ts : List Truth) : joined .or ts = unknown ↔ yes ∉ ts ∧ unknown ∈ ts := by
  induction ts with
  | nil => simp [joined]
  | cons t ts ih =>
    have h : joined .or (t :: ts) = t.or (joined .or ts) := rfl
    have certain := any_eq_yes ts
    rw [h, List.mem_cons, List.mem_cons, not_or, ← certain]
    rw [← certain] at ih
    generalize joined .or ts = u at ih ⊢
    cases t <;> cases u <;> simp_all [Truth.or]

end Truth

end Tabula.Sql
