import Tabula.Database.Config
import Tabula.Registry
/-!
# Startup

A program names its databases by URLs or in its settings.  All of them are checked before any server is
contacted; then the databases are opened one after the other, and if one cannot be opened, those opened before it
are closed again.
-/

namespace Tabula

namespace Startup

/-- what startup asks for -/
inductive Request where
  /-- opens the pool of a database -/
  | connect (config : DatabaseConfig)
  | close (db : Database)

/-- what a request is answered with -/
def Request.Answer : Request → Type
  | connect _ => Outcome Database
  | close _ => Outcome Unit

/-- a computation that opens and closes databases -/
abbrev Opening := Dialogue Request Request.Answer

/-! ## Configurations -/

/-- the configurations of the default database and of others; another one named `default` is passed over -/
def configsOfUrls (url : String) (extra : List (String × String)) : Outcome (List DatabaseConfig) := do
  let first ← DatabaseConfig.ofUrl defaultDatabase url
  let others ← (extra.filter fun e => e.1 ≠ defaultDatabase).mapM fun e => DatabaseConfig.ofUrl e.1 e.2
  return first :: others

/-- the configuration of a database in the settings -/
def configOfEntry (e : String × DatabaseSettings) : Outcome DatabaseConfig := do
  (← DatabaseConfig.ofUrl e.1 e.2.url).withOptions e.2.options

/-- the configurations of all databases in the settings, in the order of their names -/
def configsOfSettings (s : Settings) : Outcome (List DatabaseConfig) := s.databases.mapM configOfEntry

/-- refuses to start without a default database -/
def checked (configs : List DatabaseConfig) : Outcome (List DatabaseConfig) :=
  if configs.any fun c => c.name = defaultDatabase then .ok configs
  else failure .configuration ("no '" ++ defaultDatabase ++ "' database configured")

/-! ## Opening -/

/-- closes databases, whatever comes of it -/
def closeAll : List Database → Opening Unit
  | [] => .done ()
  | db :: rest => .ask (.close db) fun _ => closeAll rest

/-- opens databases after those already opened; if one cannot be opened, closes the others -/
def openAll (opened : List Database) : List DatabaseConfig → Opening (Outcome (List Database))
  | [] => .done (.ok opened)
  | c :: rest => .ask (.connect c) fun
    | .ok db => openAll (opened ++ [db]) rest
    | .error e => (closeAll opened).bind fun _ => .done (.error e)

/-- opens the databases of configurations and attaches them to a registry -/
def start (configs : Outcome (List DatabaseConfig)) : Opening (Outcome Registry) :=
  match configs.bind checked with
  | .error e => .done (.error e)
  | .ok configs => (openAll [] configs).bind fun opened => .done (opened.map Registry.ofDatabases)

/-- starts with the default database and others -/
def withUrls (url : String) (extra : List (String × String)) : Opening (Outcome Registry) :=
  start (configsOfUrls url extra)

/-- starts with the databases in the settings -/
def withSettings (s : Settings) : Opening (Outcome Registry) := start (configsOfSettings s)

end Startup

end Tabula
