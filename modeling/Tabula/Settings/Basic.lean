import Tabula.Database.Name
import Tabula.Keyed
import Tabula.Text.Case
/-!
# Settings

The addresses of the named databases and what is logged.  Variables of the environment override settings:
`Override.ofVariable?` says what a variable means, `Settings.overrideAll` lets each take effect in turn.
-/

namespace Tabula

/-- the settings of one database -/
structure DatabaseSettings where
  /-- the address -/
  url : String
  /-- further parameters, by name -/
  options : List (String × String) := []
  deriving DecidableEq, Repr

/-- all settings -/
structure Settings where
  /-- readable log lines rather than records -/
  debug : Bool := true
  /-- what to log -/
  logLevel : String := "info"
  /-- the databases, by name -/
  databases : List (String × DatabaseSettings) := []
  deriving DecidableEq, Repr

/-- what a variable of the environment changes -/
inductive Override where
  | debug (on : Bool)
  | logLevel (level : String)
  | address (database url : String)

/-- the text after a given beginning -/
def after? : List Char → List Char → Option (List Char)
  | [], s => some s
  | c :: cs, d :: s => if c = d then after? cs s else none
  | _ :: _, [] => none

/-- what a variable means: the database of an address is named in any letter case, but the default one only by
leaving the name out -/
def Override.ofVariable? (name value : String) : Option Override := do
  let key ← after? "POSTMODEL_".toList name.toList
  match String.ofList key with
  | "DEBUG" => some (.debug (["true", "1", "yes"].contains (Text.foldCase value)))
  | "LOG_LEVEL" => some (.logLevel value)
  | "DATABASE_URL" => some (.address defaultDatabase value)
  | _ =>
    let database ← after? "DATABASE_URL_".toList key
    let database := Text.lowered (String.ofList database)
    if database = "" || database = defaultDatabase then none else some (.address database value)

namespace Settings

/-- the settings of the default database -/
def default? (s : Settings) : Option DatabaseSettings := Keyed.find? defaultDatabase s.databases

/-- gives a database another address; its options stay -/
def withAddress (s : Settings) (database url : String) : Settings :=
  let options := ((Keyed.find? database s.databases).map DatabaseSettings.options).getD []
  { s with databases := Keyed.insert database ⟨url, options⟩ s.databases }

/-- lets one override take effect -/
def override (s : Settings) : Override → Settings
  | .debug on => { s with debug := on }
  | .logLevel level => { s with logLevel := level }
  | .address database url => s.withAddress database url

/-- lets one variable take effect; a variable that means nothing is passed over -/
def overrideBy (s : Settings) (v : String × String) : Settings :=
  match Override.ofVariable? v.1 v.2 with
  | some o => s.override o
  | none => s

/-- lets variables take effect one after the other -/
def overrideAll (s : Settings) (environment : List (String × String)) : Settings :=
  environment.foldl overrideBy s

end Settings

end Tabula
