import Tabula.Sql.Condition
import Tabula.Sql.Pattern
import Tabula.Field.Storage
/-!
# Lookups

How a filter compares a field with its argument.  The key of a filter is a field name and a suffix; the catalog
of a field lists its keys, each with a comparison and the form that the argument is brought into before it is
bound.  A negative comparison also keeps the rows where the field is missing.
-/

namespace Tabula

open Sql (Condition Term)

/-- the comparison that a filter makes -/
inductive Lookup where
  | exact | notExact
  | among | notAmong
  | isNull | notIsNull
  | greater | atLeast | less | atMost
  /-- match of a pattern -/
  | like
  /-- equality, and match of a pattern, whatever the case -/
  | exactAnyCase | likeAnyCase
  deriving DecidableEq

namespace Lookup

/-- the lookups by their names -/
def names : List (String × Lookup) :=
  [("Exact", exact), ("NotExact", notExact), ("In", among), ("NotIn", notAmong), ("IsNull", isNull),
    ("NotIsNull", notIsNull), ("Gt", greater), ("Gte", atLeast), ("Lt", less), ("Lte", atMost), ("Like", like),
    ("IExact", exactAnyCase), ("ILike", likeAnyCase)]

/-- the name of a lookup -/
def name (lookup : Lookup) : String := ((names.find? fun e => e.2 = lookup).map Prod.fst).getD ""

/-- the lookup of a name -/
def ofName? (name : String) : Option Lookup := names.lookup name

end Lookup

/-- where a pattern leaves room around the text sought -/
inductive Wildcard where
  | contains | startsWith | endsWith
  deriving DecidableEq

/-- the form that the argument of a filter is brought into -/
inductive ArgumentForm where
  /-- the parameter that the field would store -/
  | field
  /-- a list of such parameters -/
  | fieldList
  /-- a truth value, which chooses the comparison and is not bound -/
  | truth
  /-- text -/
  | text
  /-- a pattern that finds the text -/
  | pattern (w : Wildcard)
  deriving DecidableEq

/-- the name of a form -/
def ArgumentForm.name : ArgumentForm → String
  | field => "Field"
  | fieldList => "FieldList"
  | truth => "Bool"
  | text => "Text"
  | pattern .contains => "Like(Contains)"
  | pattern .startsWith => "Like(StartsWith)"
  | pattern .endsWith => "Like(EndsWith)"

/-- an argument ready for a statement -/
inductive Argument where
  | parameter (v : Value)
  | flag (b : Bool)

/-- the pattern for a text -/
def Wildcard.around (w : Wildcard) (s : String) : String :=
  match w with
  | contains => "%" ++ Sql.patternOf s ++ "%"
  | startsWith => Sql.patternOf s ++ "%"
  | endsWith => "%" ++ Sql.patternOf s

/-- whether a value counts as true: not when it is missing, false, zero or empty -/
def Value.isTruthy : Value → Bool
  | null => false
  | bool b => b
  | int i => i != 0
  | string s => !s.isEmpty
  | list items => !items.isEmpty
  | _ => true

/-- the condition of a comparison; `flag` is the argument of the two null checks, `argument` that of all others -/
def Lookup.condition {ε : Type} (lookup : Lookup) (column argument : ε) (flag : Bool) : Condition ε :=
  let compare (op : Sql.Operator) : Condition ε := .compare op (.plain column) (.plain argument)
  match lookup with
  | exact => compare .equal
  | notExact => (compare .unequal).orNull column
  | among => .among column argument
  | notAmong => (Condition.neg (.among column argument)).orNull column
  | isNull => .missing flag column
  | notIsNull => .missing (!flag) column
  | greater => compare .greater
  | atLeast => compare .atLeast
  | less => compare .less
  | atMost => compare .atMost
  | like => compare .like
  | exactAnyCase => .compare .equal (.upper column) (.upper argument)
  | likeAnyCase => .compare .like (.upper column) (.upper argument)

/-- one filter key of a model -/
structure CatalogEntry where
  /-- the field's name -/
  field : String
  column : String
  lookup : Lookup
  form : ArgumentForm
  deriving DecidableEq

/-- brings an argument into the form that a filter asks for -/
def ArgumentForm.encode (form : ArgumentForm) (f : Field) (v : Value) : Outcome Argument :=
  match form with
  | field => (f.toStorage v).map .parameter
  | fieldList =>
    match v with
    | .list items => (items.mapM f.toStorage).map fun vs => .parameter (.list vs)
    | v => failure .params ("lookup on '" ++ f.name ++ "' expects a list, got " ++ v.kind)
  | truth => .ok (.flag v.isTruthy)
  | text => .ok (.parameter (.string v.text))
  | pattern w => .ok (.parameter (.string (w.around v.text)))

/-- the suffixes that every field has -/
def commonLookups : List (String × Lookup × ArgumentForm) :=
  [("", .exact, .field), ("__not", .notExact, .field), ("__in", .among, .fieldList),
    ("__not_in", .notAmong, .fieldList), ("__isnull", .isNull, .truth), ("__not_isnull", .notIsNull, .truth)]

/-- the suffixes of fields that can be ordered -/
def orderedLookups : List (String × Lookup × ArgumentForm) :=
  [("__gt", .greater, .field), ("__gte", .atLeast, .field), ("__lt", .less, .field), ("__lte", .atMost, .field)]

/-- the suffixes of fields that hold text -/
def textLookups : List (String × Lookup × ArgumentForm) :=
  [("__contains", .like, .pattern .contains), ("__startswith", .like, .pattern .startsWith),
    ("__endswith", .like, .pattern .endsWith), ("__iexact", .exactAnyCase, .text),
    ("__icontains", .likeAnyCase, .pattern .contains), ("__istartswith", .likeAnyCase, .pattern .startsWith),
    ("__iendswith", .likeAnyCase, .pattern .endsWith)]

/-- the suffixes of a field -/
def Field.lookups (f : Field) : List (String × Lookup × ArgumentForm) :=
  commonLookups ++ (if f.kind.isIndexable then orderedLookups else [])
    ++ (if f.kind.isTextual then textLookups else [])

/-- the filter keys of a field under a name -/
def Field.catalog (f : Field) (known : String) : List (String × CatalogEntry) :=
  f.lookups.map fun (suffix, lookup, form) => (known ++ suffix, ⟨f.name, f.column, lookup, form⟩)

end Tabula
