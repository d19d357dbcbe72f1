import Tabula.Settings.Basic
import Tabula.Text.Digits
import Tabula.Text.Parts
import Tabula.Text.Word
/-!
# What is logged

A log filter is a list of directives with commas between them.  A directive is a level, or a target and spans
in brackets with a level behind an equals sign:

    warn        app::db=debug        app[request{id=5}]=trace

`Settings.logFilter` is the filter in force.
-/

namespace Tabula.Settings

/-- the names of the levels, from silence on -/
def levelNames : List String := ["off", "error", "warn", "info", "debug", "trace"]

/-- whether a text is a level: a number up to five or a name, in any letter case; nothing stands for the lowest
level -/
def isLevel (s : List Char) : Bool :=
  let digits := if s.head? = some '+' then s.drop 1 else s
  s.isEmpty || (Text.natOfText? digits).any (· ≤ 5) || levelNames.contains (Text.lowered (String.ofList s))

/-- whether what follows a target or a span is nothing or a level; blanks around the directive spoil the level -/
def endsDirective (exact : Bool) : List Char → Bool
  | [] => true
  | '=' :: level => exact && isLevel level
  | _ => false

/-- whether a directive goes on well after the opening bracket of a span: a name and at most one group of
fields with commas between them, none of them empty -/
def spanFollows (exact : Bool) (s : List Char) : Bool :=
  match s.dropWhile fun c => c != ']' && c != '\x7b' with
  | ']' :: rest => endsDirective exact rest
  | '\x7b' :: rest =>
    let (fields, rest) := rest.span (· != '\x7d')
    !fields.isEmpty &&
      match rest with
      | '\x7d' :: ']' :: rest => endsDirective exact rest
      | _ => false
  | _ => false

/-- whether a text is a directive -/
def isDirective (s : List Char) : Bool :=
  let core := Text.trimEnd (Text.trimStart s)
  let exact := core.length = s.length
  match core with
  | [] => false
  | '[' :: rest => spanFollows exact rest
  | c :: rest =>
    (Text.isWord c || c == '-' || c == ':' || c == '_') &&
      match rest.dropWhile fun c => c != '=' && c != '[' with
      | '[' :: rest => spanFollows exact rest
      | rest => endsDirective exact rest

/-- whether a text is a log filter; parts with nothing in them are passed over -/
def isFilter (s : String) : Bool := (Text.parts ',' s.toList).all fun d => d.isEmpty || isDirective d

/-- whether a text mentions another -/
def mentions (word : List Char) : List Char → Bool
  | [] => word.isEmpty
  | c :: s => word.isPrefixOf (c :: s) || mentions word s

/-- the name under which work on databases is logged -/
def logTarget : String := "postmodel::db"

/-- the log filter in force: the level given, or `info` where it is blank or no filter; while debugging, also
every statement, unless the filter already speaks of this library -/
def logFilter (s : Settings) : String :=
  let base := if isFilter s.logLevel && !Text.allBlank s.logLevel then Text.trim s.logLevel else "info"
  if s.debug && !mentions "postmodel".toList base.toList then base ++ "," ++ logTarget ++ "=debug" else base

end Tabula.Settings
