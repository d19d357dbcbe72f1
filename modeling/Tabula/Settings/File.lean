import Tabula.Error
import Tabula.Json.Reader
import Tabula.Settings.Basic
import Tabula.Toml.Reader
/-!
# Settings files

A settings file is a document whose root has the members `debug`, `log_level` and `databases`, each of them
optional.  A database is its address, or a table with the address and options; an option is a text, a whole
number or a truth value.  A document of another shape is refused, and so is a blank address.

`Record` is the other written form, with nothing left out: every root member is there, a database is always a
table and options are texts.
-/

namespace Tabula.Settings

/-! ## Members -/

/-- the member of a name, if it is there; a name that occurs twice is refused -/
def member? (name : String) (members : List (String × Json)) : Option (Option Json) :=
  match members.filter fun m => m.1 = name with
  | [] => some none
  | [m] => some (some m.2)
  | _ => none

/-- reads a member that may be missing -/
def optional? {α : Type} (read : Json → Option α) (missing : α) (name : String)
    (members : List (String × Json)) : Option α := do
  match ← member? name members with
  | some j => read j
  | none => some missing

/-- reads a member that has to be there -/
def required? {α : Type} (read : Json → Option α) (name : String) (members : List (String × Json)) :
    Option α := do
  match ← member? name members with
  | some j => read j
  | none => none

def text? : Json → Option String
  | .str s => some s
  | _ => none

def flag? : Json → Option Bool
  | .bool b => some b
  | _ => none

/-- reads a value that may be null -/
def orNull? {α : Type} (read : Json → Option α) : Json → Option (Option α)
  | .null => some none
  | j => (read j).map some

/-- reads a table of any names, of equal names the last -/
def table? {α : Type} (read : Json → Option α) : Json → Option (List (String × α))
  | .obj members => (members.mapM fun m => (read m.2).map (m.1, ·)).map Keyed.ofList
  | _ => none

/-! ## Files -/

/-- the text of an option: a text, a whole number of 64 bits or a truth value -/
def option? : Json → Option String
  | .str s => some s
  | .int i => if Text.fitsSigned 64 i then some (toString i) else none
  | .bool b => some (if b then "true" else "false")
  | _ => none

/-- a database: its address alone, or a table -/
def database? : Json → Option DatabaseSettings
  | .str url => some { url := url }
  | .obj members => do
    return ⟨← required? text? "url" members, ← optional? (table? option?) [] "options" members⟩
  | _ => none

/-- the settings that given entries lay over the defaults -/
def overDefaults (debug : Option Bool) (level : Option String)
    (databases : List (String × DatabaseSettings)) : Settings :=
  { debug := debug.getD true, logLevel := level.getD "info", databases := databases }

/-- the members that the root of a file may have -/
def rootMembers : List String := ["debug", "log_level", "databases"]

/-- settings from the document of a file; the root may also list its members in their order, at least two -/
def ofDocument? : Json → Option Settings
  | .obj members => do
    if members.all fun m => rootMembers.contains m.1 then
      return overDefaults (← optional? (orNull? flag?) none "debug" members)
        (← optional? (orNull? text?) none "log_level" members)
        (← optional? (table? database?) [] "databases" members)
    else none
  | .arr [debug, level] => do return overDefaults (← orNull? flag? debug) (← orNull? text? level) []
  | .arr [debug, level, databases] => do
    return overDefaults (← orNull? flag? debug) (← orNull? text? level) (← table? database? databases)
  | _ => none

/-- refuses a blank address -/
def checked (s : Settings) : Outcome Settings :=
  match s.databases.find? fun d => Text.allBlank d.2.url with
  | some d => failure .configuration ("database '" ++ d.1 ++ "' has an empty url")
  | none => .ok s

/-- settings from the text of a TOML file -/
def ofToml (s : String) : Outcome Settings :=
  match (Toml.document? s).bind ofDocument? with
  | some settings => settings.checked
  | none => failure .configuration "Failed to parse TOML"

/-- settings from the text of a JSON file -/
def ofJson (s : String) : Outcome Settings :=
  match (Json.asWritten? s).bind ofDocument? with
  | some settings => settings.checked
  | none => failure .serialization "not a settings file"

/-- settings from the contents of a file, which is missing or read by the reader of its format -/
def ofFile (read : String → Outcome Settings) (contents : Option String) : Outcome Settings :=
  match contents with
  | some s => read s
  | none => failure .file "no such file"

/-! ## Records -/

/-- a database of a record -/
def recordedDatabase? : Json → Option DatabaseSettings
  | .obj members => do
    return ⟨← required? text? "url" members, ← optional? (table? text?) [] "options" members⟩
  | .arr [url] => (text? url).map fun url => { url := url }
  | .arr [url, options] => do return ⟨← text? url, ← table? text? options⟩
  | _ => none

/-- settings from the document of a record; members that do not belong to it are passed over -/
def ofRecord? : Json → Option Settings
  | .obj members => do
    return ⟨← required? flag? "debug" members, ← required? text? "log_level" members,
      ← required? (table? recordedDatabase?) "databases" members⟩
  | .arr [debug, level, databases] => do
    return ⟨← flag? debug, ← text? level, ← table? recordedDatabase? databases⟩
  | _ => none

/-- settings from the text of a record -/
def ofRecord (s : String) : Outcome Settings :=
  match (Json.asWritten? s).bind ofRecord? with
  | some settings => .ok settings
  | none => failure .serialization "not a settings record"

end Tabula.Settings
