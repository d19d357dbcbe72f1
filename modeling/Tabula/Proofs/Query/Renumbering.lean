import Tabula.Proofs.Database.Table
import Tabula.Proofs.Query.Binding
/-!
# Compiling behind other parameters

A restriction that is compiled when parameters are bound already is the one compiled first, with its placeholders moved
behind those parameters.  So it keeps the same rows: `Model.restriction_moved` and `Sql.Restriction.keeps_moved`.
-/

namespace Tabula

open Sql (Condition Join Operand)

/-! ## Moved placeholders -/

namespace Sql

variable {ε ε' : Type}

def Term.map (f : ε → ε') : Term ε → Term ε'
  | plain e => .plain (f e)
  | upper e => .upper (f e)

namespace Condition

mutual

/-- a condition with other operands -/
def map (f : ε → ε') : Condition ε → Condition ε'
  | compare op a b => .compare op (a.map f) (b.map f)
  | among a b => .among (f a) (f b)
  | isNull e => .isNull (f e)
  | isNotNull e => .isNotNull (f e)
  | neg c => .neg (map f c)
  | group join parts => .group join (mapAll f parts)

def mapAll (f : ε → ε') : List (Condition ε) → List (Condition ε')
  | [] => []
  | c :: cs => map f c :: mapAll f cs

end

theorem mapAll_eq (f : ε → ε') (cs : List (Condition ε)) : mapAll f cs = cs.map (map f) := by
  induction cs with
  | nil => rfl
  | cons c cs ih => rw [mapAll, ih, List.map_cons]

theorem joined_map (f : ε → ε') (join : Join) (cs : List (Condition ε)) :
    joined join (cs.map (map f)) = (joined join cs).map (map f) := by
  match cs with
  | [] => rfl
  | [c] => rfl
  | c :: d :: cs => simp [joined, map, mapAll_eq]

end Condition

/-- an operand behind `k` more parameters -/
def Operand.moved (k : Nat) : Operand → Operand
  | parameter 0 => .parameter 0
  | parameter (n + 1) => .parameter (n + 1 + k)
  | e => e

/-- a condition behind `k` more parameters -/
abbrev Condition.moved (k : Nat) : Condition Operand → Condition Operand := Condition.map (Operand.moved k)

abbrev Condition.movedAll (k : Nat) (cs : List (Condition Operand)) : List (Condition Operand) := cs.map (moved k)

/-- a restriction behind `k` more parameters -/
def Restriction.moved (k : Nat) (rows : Restriction) : Restriction := rows.map (Condition.movedAll k)

theorem restrict_moved (k : Nat) (cs : List (Condition Operand)) :
    restrict (Condition.movedAll k cs) = Restriction.moved k (restrict cs) := by
  cases cs <;> rfl

/-! ### They mean the same -/

variable {ρ δ : Type} (sense : Sense ρ δ) (ps qs : List Value) (row : ρ)

theorem Operand.datum_moved (e : Operand) :
    (e.moved ps.length).datum sense (ps ++ qs) row = e.datum sense qs row := by
  cases e with
  | parameter n =>
    cases n with
    | zero => rfl
    | succ n =>
      have behind : (ps ++ qs)[n + ps.length]? = qs[n]? := by
        rw [List.getElem?_append_right (Nat.le_add_left ..), Nat.add_sub_cancel]
      rw [moved, datum, datum, Nat.add_right_comm, StoredRow.parameter?, behind, StoredRow.parameter?]
  | _ => rfl

theorem Term.datum_moved (t : Term Operand) :
    (t.map (Operand.moved ps.length)).datum sense (ps ++ qs) row = t.datum sense qs row := by
  cases t with
  | plain e => exact e.datum_moved sense ps qs row
  | upper e => exact congrArg sense.upper (e.datum_moved sense ps qs row)

namespace Condition

mutual

theorem truth_moved (c : Condition Operand) :
    (c.moved ps.length).truth sense (ps ++ qs) row = c.truth sense qs row := by
  cases c with
  | compare op a b => simp only [moved, map, truth, Term.datum_moved]
  | among a b => simp only [moved, map, truth, Operand.datum_moved]
  | isNull e => simp only [moved, map, truth, Operand.datum_moved]
  | isNotNull e => simp only [moved, map, truth, Operand.datum_moved]
  | neg c => exact congrArg Truth.not (truth_moved c)
  | group join parts => exact congrArg (Truth.joined join) (truths_moved parts)

theorem truths_moved (cs : List (Condition Operand)) :
    truths sense (ps ++ qs) row (mapAll (Operand.moved ps.length) cs) = truths sense qs row cs := by
  cases cs with
  | nil => rfl
  | cons c cs => exact congrArg₂ _ (truth_moved c) (truths_moved cs)

end

end Condition

/-- **A restriction keeps the same rows when it is moved behind other parameters.** -/
theorem Restriction.keeps_moved (rows : Restriction) :
    keeps sense (ps ++ qs) (moved ps.length rows) row = keeps sense qs rows row := by
  cases rows with
  | none => rfl
  | some cs =>
    rw [moved, Option.map_some, Condition.movedAll, ← Condition.mapAll_eq, keeps, keeps, Condition.truths_moved]

end Sql

/-! ## Compilations that renumber -/

namespace Binding

variable {α β : Type}

/-- an outcome with its parameters, behind others -/
def behind (move : Nat → α → α) (ps : List Value) (r : Outcome α × List Value) : Outcome α × List Value :=
  (r.1.map (move ps.length), ps ++ r.2)

/-- whether all that parameters bound before change about a compilation is that its result is moved behind them -/
def Renumbers (move : Nat → α → α) (x : Binding α) : Prop :=
  ∀ ps qs, x.runWith (ps ++ qs) = behind move ps (x.runWith qs)

variable {move : Nat → α → α} {move' : Nat → β → β}

theorem Renumbers.pure {a : α} (h : ∀ k, move k a = a) : Renumbers move (pure a) := by
  intro ps qs
  rw [runWith_pure, runWith_pure, behind, Except.map, h]

theorem Renumbers.throw (err : Error) : Renumbers move (throw err) := fun _ _ => rfl

/-- one compilation after the other -/
theorem Renumbers.seq {x : Binding α} {f : α → Binding β} (hx : Renumbers move x)
    (hf : ∀ a ps qs, (f (move ps.length a)).runWith (ps ++ qs) = behind move' ps ((f a).runWith qs)) :
    Renumbers move' (x >>= f) := by
  intro ps qs
  rw [runWith_seq, runWith_seq, hx ps qs, behind]
  match x.runWith qs with
  | (.ok a, rs) => exact hf a ps rs
  | (.error err, rs) => rfl

/-- a compilation that does not depend on numbers, and another one -/
theorem Renumbers.seq_lift {o : Outcome α} {f : α → Binding β} (hf : ∀ a, Renumbers move' (f a)) :
    Renumbers move' (Binding.lift o >>= f) := by
  intro ps qs
  rw [runWith_seq, runWith_seq, runWith_lift, runWith_lift]
  cases o with
  | ok a => exact hf a ps qs
  | error err => rfl

/-- a compilation whose result is put to use -/
theorem Renumbers.map {x : Binding α} {f : α → β} (hx : Renumbers move x)
    (hf : ∀ k a, f (move k a) = move' k (f a)) : Renumbers move' (do return f (← x)) := by
  refine hx.seq fun a ps qs => ?_
  rw [runWith_pure, runWith_pure, behind, Except.map, hf]

/-- one value bound, and a condition made of its number -/
theorem Renumbers.ofNumber (v : Value) {make : Nat → Condition Operand}
    (h : ∀ k n, make (n + 1 + k) = (make (n + 1)).moved k) :
    Renumbers Condition.moved (do return make (← bind v)) := by
  intro ps qs
  have number : (ps ++ qs).length + 1 = qs.length + 1 + ps.length := by
    rw [List.length_append, Nat.add_comm ps.length, Nat.add_right_comm]
  simp only [runWith_seq, runWith_bind_value, runWith_pure, behind, Except.map, ← h, number, List.append_assoc]

/-- one more condition in front -/
theorem Renumbers.cons {x : Binding (List (Condition Operand))} (hx : Renumbers Condition.movedAll x)
    (c : Condition Operand) (ps qs : List Value) : (do return c.moved ps.length :: (← x)).runWith (ps ++ qs) =
      behind Condition.movedAll ps ((do return c :: (← x)).runWith qs) := by
  rw [runWith_seq, runWith_seq, hx ps qs, behind]
  match x.runWith qs with
  | (.ok cs, rs) => rfl
  | (.error err, rs) => rfl

end Binding

/-! ## Filters renumber -/

open Binding (Renumbers)

theorem Lookup.condition_moved (lookup : Lookup) (column : String) (argument : Operand) (flag : Bool) (k : Nat) :
    lookup.condition (.column column) (argument.moved k) flag =
      (lookup.condition (.column column) argument flag).moved k := by
  cases lookup <;> cases flag <;> rfl

namespace PathFilter

variable (f : PathFilter) (op : Sql.Operator)

theorem renumbers_against (v : Value) : Renumbers Condition.moved (f.against op v) :=
  .ofNumber v fun _ _ => rfl

theorem renumbers_textAgainst (s : String) : Renumbers Condition.moved (f.textAgainst op s) :=
  .ofNumber _ fun _ _ => rfl

theorem renumbers_capitalsAgainst (s : String) : Renumbers Condition.moved (f.capitalsAgainst op s) :=
  .ofNumber _ fun _ _ => rfl

theorem renumbers_membership (v : Value) : Renumbers Condition.moved (f.membership v) := by
  cases v with
  | list items => exact .ofNumber _ fun _ _ => rfl
  | _ => exact .throw _

theorem renumbers_keysAgainst (v : Value) :
    Renumbers Condition.moved (do f.against op (.list (← f.keys v))) := by
  cases v with
  | list items => exact f.renumbers_against op _
  | string s => exact f.renumbers_against op _
  | _ => exact .throw _

theorem renumbers_compile (v : Value) : Renumbers Condition.moved (f.compile v) := by
  have missing : ∀ flag, Renumbers Condition.moved (pure (.missing flag f.path.value)) :=
    fun flag => .pure fun _ => by cases flag <;> rfl
  unfold compile
  cases f.test <;> simp only
  case exact =>
    split
    · exact missing true
    · exact f.renumbers_against _ _
  case notExact =>
    split
    · exact missing false
    · exact (f.renumbers_against _ _).map fun _ _ => rfl
  case notAmong => exact (f.renumbers_membership v).map fun _ _ => rfl
  case among => exact f.renumbers_membership v
  case isNull | notIsNull => exact missing _
  case hasKeys | hasAnyKey => exact f.renumbers_keysAgainst _ v
  case startsWith | endsWith => exact f.renumbers_textAgainst _ _
  case startsWithAnyCase | endsWithAnyCase | containsAnyCase | exactAnyCase => exact f.renumbers_capitalsAgainst _ _
  all_goals exact f.renumbers_against _ _

end PathFilter

namespace Model

variable (m : Model)

theorem renumbers_condition (key : String) (v : Value) : Renumbers Condition.moved (m.condition key v) := by
  unfold condition
  cases m.filter? key with
  | none =>
    refine .seq_lift fun found => ?_
    cases found with
    | none => exact .throw _
    | some f => exact f.renumbers_compile v
  | some entry =>
    simp only
    cases m.field? entry.field with
    | none => exact .throw _
    | some f =>
      refine .seq_lift fun argument => ?_
      cases argument with
      | parameter p => exact .ofNumber p fun k n => entry.lookup.condition_moved _ (.parameter (n + 1)) ..
      | flag b => exact .pure fun k => (entry.lookup.condition_moved ..).symm

theorem renumbers_conditions (pairs : List (String × Value)) :
    Renumbers Condition.movedAll (m.conditions pairs) := by
  induction pairs with
  | nil => exact .pure fun _ => rfl
  | cons pair rest ih =>
    exact (m.renumbers_condition pair.1 pair.2).seq fun c => ih.cons c

end Model

theorem negatedIf_moved (k : Nat) (negated : Bool) (c : Condition Operand) :
    negatedIf negated (c.moved k) = (negatedIf negated c).moved k := by
  cases negated <;> rfl

/-- what a node makes of its parts goes with them -/
theorem negated_joined_moved (k : Nat) (join : Join) (negated : Bool) (cs : List (Condition Operand)) :
    (Condition.joined join (Condition.movedAll k cs)).map (negatedIf negated) =
      ((Condition.joined join cs).map (negatedIf negated)).map (Condition.moved k) := by
  rw [Condition.joined_map]
  cases Condition.joined join cs with
  | none => rfl
  | some c => exact congrArg some (negatedIf_moved k negated c)

namespace Filter

variable (m : Model)

mutual

theorem renumbers_compile (f : Filter) :
    Renumbers (fun k c => c.map (Condition.moved k)) (compile m f) := by
  cases f with
  | leaf cs join negated => exact (m.renumbers_conditions cs).map fun k cs => negated_joined_moved k .and negated cs
  | branch fs join negated => exact (renumbers_compileAll fs).map fun k cs => negated_joined_moved k join negated cs

theorem renumbers_compileAll (fs : List Filter) :
    Renumbers Condition.movedAll (compileAll m fs) := by
  cases fs with
  | nil => exact .pure fun _ => rfl
  | cons f fs =>
    refine (renumbers_compile f).seq fun c ps qs => ?_
    cases c with
    | none => exact renumbers_compileAll fs ps qs
    | some c => exact (renumbers_compileAll fs).cons c ps qs

end

end Filter

/-- **A restriction compiled behind other parameters is the one compiled first, moved behind them.** -/
theorem Model.renumbers_restriction (m : Model) (fs : List Filter) :
    Renumbers Sql.Restriction.moved (m.restriction fs) := by
  unfold restriction
  rw [map_eq_pure_bind]
  exact (Filter.renumbers_compileAll m fs).map fun k cs => Sql.restrict_moved k cs

end Tabula
