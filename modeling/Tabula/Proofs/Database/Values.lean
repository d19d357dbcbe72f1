import Tabula.Proofs.Database.Table
import Tabula.Proofs.Sql.Like
import Tabula.Text.Case
import Tabula.Text.Digits
/-!
# What databases promise

`Sense` leaves open what comes of operands and operators; here is what the lookups rely on.  `Sense.Equates` is about
equality and membership in a list, `Sense.ReadsText` about texts and patterns.  `values` is a database of both kinds,
whose rows are values under the names of columns.
-/

namespace Tabula

namespace Sql

variable {ρ δ : Type}

/-! ## Promises -/

/-- what a database promises of equality: it is unknown just if a side is missing, inequality is its negation, and a
list has a member if one of its elements equals it -/
structure Sense.Equates (sense : Sense ρ δ) : Prop where
  parameter : ∀ v, sense.isNull (sense.parameter (some v)) = v.isNull
  equal : ∀ a b, sense.compare .equal a b = .unknown ↔ sense.isNull a = true ∨ sense.isNull b = true
  unequal : ∀ a b, sense.compare .unequal a b = (sense.compare .equal a b).not
  among : ∀ a items, sense.among a (sense.parameter (some (.list items))) =
    Truth.joined .or (items.map fun v => sense.compare .equal a (sense.parameter (some v)))

/-- what a database promises of texts: they are bound as they are, brought into capitals one character after the other,
and match patterns as these are read -/
structure Sense.ReadsText (sense : Sense ρ δ) (capital : Char → Char) (text : List Char → δ) : Prop where
  parameter : ∀ s, sense.parameter (some (.string s)) = text s.toList
  upper : ∀ s, sense.upper (text s) = text (s.map capital)
  like : ∀ t p b, like? p t = some b → sense.compare .like (text t) (text p) = .ofBool b

end Sql

/-! ## Rows of values -/

/-- the document one step into another; none if there is none -/
def Json.step? (segment : String) : Json → Option Json
  | arr items => (Text.natOfText? segment.toList).bind fun i => items[i]?
  | obj members => if (Text.natOfText? segment.toList).isSome then none else Keyed.find? segment members
  | _ => none

/-- the document at the end of a path -/
def Json.at? (j : Json) (segments : List String) : Option Json := segments.foldlM (fun j s => j.step? s) j

namespace Sql

/-- a database over rows of values.  Of the operators it has equality and the match of patterns. -/
def values : Sense (List (String × Value)) Value where
  column row name := (Keyed.find? name row).getD .null
  path d segments :=
    match d with
    | .json j => ((j.at? segments).map .json).getD .null
    | _ => .null
  pathText d segments :=
    match d with
    | .json j =>
      match j.at? segments with
      | some (.str s) => .string s
      | some .null | none => .null
      | some j => .string j.text
    | _ => .null
  parameter v := v.getD .null
  upper d :=
    match d with
    | .string s => .string (Text.raised s)
    | d => d
  compare op a b :=
    match op, a, b with
    | .equal, a, b => a.equals b
    | .unequal, a, b => (a.equals b).not
    | .like, .string t, .string p => ((like? p.toList t.toList).map .ofBool).getD .unknown
    | _, _, _ => .unknown
  among a b :=
    match b with
    | .list items => Truth.joined .or (items.map a.equals)
    | _ => .unknown
  isNull := Value.isNull
  order _ _ := .eq

theorem values_equates : values.Equates where
  parameter _ := rfl
  equal a b := by
    change a.equals b = .unknown ↔ a.isNull = true ∨ b.isNull = true
    unfold Value.equals
    cases a.isNull <;> cases b.isNull <;> cases a.same b <;> decide
  unequal a b := by cases a <;> rfl
  among _ _ := rfl

theorem values_readsText : values.ReadsText Char.toUpper fun s => .string (String.ofList s) where
  parameter s := congrArg Value.string s.ofList_toList.symm
  upper s := by
    change Value.string (Text.raised (String.ofList s)) = _
    rw [Text.raised, String.toList_ofList]
  like t p b h := by
    change ((like? (String.ofList p).toList (String.ofList t).toList).map Truth.ofBool).getD .unknown = _
    rw [String.toList_ofList, String.toList_ofList, h, Option.map_some, Option.getD_some]

end Sql

end Tabula
