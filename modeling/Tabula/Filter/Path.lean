import Tabula.Model.Basic
import Tabula.Sql.Statement
import Tabula.Query.Binding
/-!
# Paths into documents

A key such as `data.info.age__gt` names a document field, the members or indexes that lead to a value inside it,
and a test of that value.
-/

namespace Tabula

open Sql (Condition Operand)

/-- a test of the value that a path leads to -/
inductive PathTest where
  | exact | notExact
  | among | notAmong
  | isNull | notIsNull
  | greater | atLeast | less | atMost
  /-- the value has the key, all of the keys, any of the keys -/
  | hasKey | hasKeys | hasAnyKey
  /-- the value holds the argument, is held by it -/
  | holds | heldBy
  /-- tests of the value's text -/
  | startsWith | endsWith
  /-- the same whatever the case -/
  | startsWithAnyCase | endsWithAnyCase | containsAnyCase | exactAnyCase
  deriving DecidableEq

namespace PathTest

/-- the suffixes of the tests; a key without one tests for equality -/
def suffixes : List (String × PathTest) :=
  [("not", notExact), ("in", among), ("not_in", notAmong), ("isnull", isNull), ("not_isnull", notIsNull),
    ("gt", greater), ("gte", atLeast), ("lt", less), ("lte", atMost), ("has_key", hasKey), ("has_keys", hasKeys),
    ("has_anykeys", hasAnyKey), ("contains", holds), ("contained_by", heldBy), ("startswith", startsWith),
    ("endswith", endsWith), ("istartswith", startsWithAnyCase), ("iendswith", endsWithAnyCase),
    ("icontains", containsAnyCase), ("iexact", exactAnyCase)]

def ofSuffix? (s : String) : Option PathTest := (suffixes.find? (·.1 == s)).map Prod.snd

/-- the name of a test -/
def name : PathTest → String
  | exact => "Exact"
  | notExact => "Not"
  | among => "In"
  | notAmong => "NotIn"
  | isNull => "IsNull"
  | notIsNull => "NotIsNull"
  | greater => "Gt"
  | atLeast => "Gte"
  | less => "Lt"
  | atMost => "Lte"
  | hasKey => "HasKey"
  | hasKeys => "HasKeys"
  | hasAnyKey => "HasAnyKeys"
  | holds => "Contains"
  | heldBy => "ContainedBy"
  | startsWith => "StartsWith"
  | endsWith => "EndsWith"
  | startsWithAnyCase => "IStartsWith"
  | endsWithAnyCase => "IEndsWith"
  | containsAnyCase => "IContains"
  | exactAnyCase => "IExact"

end PathTest

/-- a place inside a document field -/
structure JsonPath where
  /-- the field's name -/
  field : String
  column : String
  /-- members and indexes, outermost first -/
  segments : List String
  deriving DecidableEq

namespace JsonPath

/-- the place that a dotted name stands for; none if the name does not begin with a document field -/
def resolve? (m : Model) (dotted : String) : Outcome (Option JsonPath) :=
  match (dotted.toList.splitOn '.').map String.ofList with
  | [] => .ok none
  | name :: segments =>
    match m.field? name with
    | none => .ok none
    | some f =>
      if f.kind ≠ .json then .ok none
      else if segments.any String.isEmpty then
        failure .field ("empty segment in JSON path '" ++ dotted ++ "'")
      else .ok (some ⟨f.name, f.column, segments⟩)

/-- the value as a document -/
def value (p : JsonPath) : Operand := .path p.column p.segments

/-- the value as text -/
def valueText (p : JsonPath) : Operand := .pathText p.column p.segments

end JsonPath

/-- a test at the end of a path -/
structure PathFilter where
  path : JsonPath
  test : PathTest
  deriving DecidableEq

/-- cuts a text at the last double underscore -/
def splitSuffix : List Char → Option (List Char × List Char)
  | [] => none
  | c :: rest =>
    match splitSuffix rest with
    | some (head, suffix) => some (c :: head, suffix)
    | none =>
      match c, rest with
      | '_', '_' :: suffix => some ([], suffix)
      | _, _ => none

namespace PathFilter

/-- the name in front of a suffix that is a test, and the test -/
def splitKey (key : String) : String × PathTest :=
  match splitSuffix key.toList with
  | some (head, suffix) =>
    match PathTest.ofSuffix? (String.ofList suffix) with
    | some test => (String.ofList head, test)
    | none => (key, .exact)
  | none => (key, .exact)

/-- the filter that a key stands for; none if the key does not begin with a document field -/
def parse? (m : Model) (key : String) : Outcome (Option PathFilter) := do
  let (dotted, test) := splitKey key
  return (← JsonPath.resolve? m dotted).map (⟨·, test⟩)

/-- the refusal of an argument that is no list -/
def expectedList {α : Type} (f : PathFilter) (v : Value) : Binding α :=
  Binding.fail .params ("JSON lookup on '" ++ f.path.field ++ "' expects a list, got " ++ v.kind)

/-- a value as the document that is bound for it -/
def document (v : Value) : Value := .json v.toJson

/-- the value at the path against a bound parameter -/
def against (f : PathFilter) (op : Sql.Operator) (v : Value) : Binding (Condition Operand) := do
  let n ← Binding.bind v
  return .compare op (.plain f.path.value) (.plain (.parameter n))

/-- the text at the path against a bound text -/
def textAgainst (f : PathFilter) (op : Sql.Operator) (s : String) : Binding (Condition Operand) := do
  let n ← Binding.bind (.string s)
  return .compare op (.plain f.path.valueText) (.plain (.parameter n))

/-- the text at the path against a bound text, both in capitals -/
def capitalsAgainst (f : PathFilter) (op : Sql.Operator) (s : String) : Binding (Condition Operand) := do
  let n ← Binding.bind (.string s)
  return .compare op (.upper f.path.valueText) (.upper (.parameter n))

/-- the keys that an argument lists; a text is one key -/
def keys (f : PathFilter) : Value → Binding (List Value)
  | .list items => return items.map fun v => .string v.text
  | .string s => return [.string s]
  | v => f.expectedList v

/-- membership of the value at the path in a list -/
def membership (f : PathFilter) : Value → Binding (Condition Operand)
  | .list items => do
    let n ← Binding.bind (.list (items.map document))
    return .among f.path.value (.parameter n)
  | v => f.expectedList v

/-- the condition for an argument -/
def compile (f : PathFilter) (v : Value) : Binding (Condition Operand) :=
  let place := f.path.value
  match f.test with
  | .exact => if v.isNull then return .isNull place else f.against .equal (document v)
  | .notExact =>
    if v.isNull then return .isNotNull place
    else return (← f.against .unequal (document v)).orNull place
  | .among => f.membership v
  | .notAmong => return (Condition.neg (← f.membership v)).orNull place
  | .isNull => return .missing v.isTruthy place
  | .notIsNull => return .missing (!v.isTruthy) place
  | .greater => f.against .greater (document v)
  | .atLeast => f.against .atLeast (document v)
  | .less => f.against .less (document v)
  | .atMost => f.against .atMost (document v)
  | .hasKey => f.against .hasKey (.string v.text)
  | .hasKeys => do f.against .hasKeys (.list (← f.keys v))
  | .hasAnyKey => do f.against .hasAnyKey (.list (← f.keys v))
  | .holds => f.against .holds (document v)
  | .heldBy => f.against .heldBy (document v)
  | .startsWith => f.textAgainst .like (Wildcard.startsWith.around v.text)
  | .endsWith => f.textAgainst .like (Wildcard.endsWith.around v.text)
  | .startsWithAnyCase => f.capitalsAgainst .like (Wildcard.startsWith.around v.text)
  | .endsWithAnyCase => f.capitalsAgainst .like (Wildcard.endsWith.around v.text)
  | .containsAnyCase => f.capitalsAgainst .like (Wildcard.contains.around v.text)
  | .exactAnyCase => f.capitalsAgainst .equal v.text

end PathFilter

end Tabula
