import Tabula.Address.Basic
import Tabula.Error
import Tabula.Settings.Basic
import Tabula.Text.Case
import Tabula.Text.Escaped
/-!
# Configuration of a database

What it takes to open a pool of connections to one named database.  `DatabaseConfig.ofUrl` reads it from a URL
whose parameters tune the pool; `DatabaseConfig.withOptions` applies further parameters on top.
-/

namespace Tabula

/-- the kinds of database server -/
inductive Backend where
  | postgres
  deriving DecidableEq, Repr

namespace Backend

/-- the backend that a scheme names -/
def ofScheme (scheme : String) : Outcome Backend :=
  if scheme = "postgres" || scheme = "postgresql" then .ok postgres
  else failure .configuration ("Unknown DB scheme: " ++ scheme)

/-- the scheme that stands for a backend -/
def scheme : Backend → String
  | postgres => "postgres"

end Backend

/-- how a connection is protected -/
inductive TlsMode where
  /-- never -/
  | disable
  /-- if the server offers it -/
  | prefer
  deriving DecidableEq, Repr

/-- the configuration of one named database; times are in seconds -/
structure DatabaseConfig where
  name : String
  backend : Backend
  host : String
  port : Nat
  user : Option String
  password : Option String
  /-- the name of the database on its server -/
  database : String
  /-- connections kept open -/
  minSize : Nat := 1
  /-- most connections open at a time -/
  maxSize : Nat := 30
  /-- how long to wait for a free connection -/
  timeout : Option Nat := none
  /-- how long to wait for a new connection -/
  connectTimeout : Option Nat := none
  /-- the name under which connections show up on the server -/
  applicationName : Option String := none
  tls : TlsMode := .prefer
  /-- whether opening the pool may create the database -/
  createsDatabase : Bool := false
  deriving DecidableEq, Repr

namespace DatabaseConfig

/-- the host of an address that names none -/
def defaultHost : String := "localhost"

/-- the port of an address that names none -/
def defaultPort : Nat := 5432

/-! ## Parameters -/

/-- a number of 64 bits, with or without a plus sign -/
def word? (s : String) : Option Nat := do
  let digits := match s.toList with
    | '+' :: ds => ds
    | ds => ds
  let n ← Text.natOfText? digits
  if n < Nat.pow 2 64 then some n else none

/-- a number of connections, at least one -/
def size (key value : String) : Outcome Nat :=
  match word? value with
  | some (n + 1) => .ok (n + 1)
  | _ => failure .configuration ("'" ++ key ++ "' must be a positive integer, got '" ++ value ++ "'")

/-- a time in seconds -/
def seconds (key value : String) : Outcome Nat :=
  match word? value with
  | some n => .ok n
  | none => failure .configuration ("'" ++ key ++ "' must be a whole number of seconds, got '" ++ value ++ "'")

/-- a truth value, in any letter case -/
def flag (key value : String) : Outcome Bool :=
  let v := Text.lowered value
  if ["1", "true", "yes", "on"].contains v then .ok true
  else if ["0", "false", "no", "off"].contains v then .ok false
  else failure .configuration ("'" ++ key ++ "' must be a boolean, got '" ++ value ++ "'")

/-- the protection that a parameter names -/
def tlsMode (value : String) : Outcome TlsMode :=
  match value with
  | "disable" => .ok .disable
  | "prefer" => .ok .prefer
  | _ => failure .configuration
      ("sslmode '" ++ value ++ "' is not supported; use 'disable' or 'prefer'")

/-- applies one parameter -/
def withParameter (c : DatabaseConfig) (key value : String) : Outcome DatabaseConfig :=
  match key with
  | "min_size" => (size key value).map fun n => { c with minSize := n }
  | "max_size" => (size key value).map fun n => { c with maxSize := n }
  | "timeout" => (seconds key value).map fun n => { c with timeout := some n }
  | "connect_timeout" => (seconds key value).map fun n => { c with connectTimeout := some n }
  | "application_name" => .ok { c with applicationName := some value }
  | "sslmode" => (tlsMode value).map fun m => { c with tls := m }
  | "create_db" => (flag key value).map fun b => { c with createsDatabase := b }
  | _ => failure .configuration ("unknown parameter '" ++ key ++ "' for database '" ++ c.name ++ "'")

/-- applies parameters one after the other -/
def withParameters (c : DatabaseConfig) (parameters : List (String × String)) : Outcome DatabaseConfig :=
  parameters.foldlM (fun c p => c.withParameter p.1 p.2) c

/-- refuses to keep more connections open than there may be -/
def checked (c : DatabaseConfig) : Outcome DatabaseConfig :=
  if c.minSize > c.maxSize then
    failure .configuration ("min_size (" ++ toString c.minSize ++ ") exceeds max_size (" ++ toString c.maxSize ++
      ") for database '" ++ c.name ++ "'")
  else .ok c

/-- applies options, in the order of their names, on top of the parameters of the URL -/
def withOptions (c : DatabaseConfig) (options : List (String × String)) : Outcome DatabaseConfig := do
  (← c.withParameters (Keyed.ofList options)).checked

/-! ## URLs -/

/-- a part of a URL without its escapes -/
def decoded (part : String) : Outcome String :=
  match Text.ofUtf8? (Text.percentDecoded (Text.utf8 part)) with
  | some s => .ok s
  | none => failure .configuration "invalid percent-encoding in database URL"

/-- a part of a URL that may be missing -/
def decoded? : Option String → Outcome (Option String)
  | some part => (decoded part).map some
  | none => .ok none

/-- the URL of a database taken apart -/
def addressOf (name url : String) : Outcome Address :=
  match Address.ofText url with
  | .ok a => .ok a
  | .error .port => failure .configuration "Port is not an integer"
  | .error fault => failure .configuration ("invalid database URL for '" ++ name ++ "': " ++ fault.message)

/-- the configuration that an address gives before its parameters are applied -/
def ofAddress (name : String) (a : Address) : Outcome DatabaseConfig := do
  let backend ← Backend.ofScheme a.scheme
  let user ← decoded? (if a.user = "" then none else some a.user)
  let password ← decoded? a.password
  let database ← decoded (String.ofList (a.path.toList.dropWhile (· == '/')))
  if database = "" then failure .configuration ("database URL for '" ++ name ++ "' names no database")
  else return {
    name, backend, user, password, database
    host := if a.host = "" then defaultHost else a.host
    port := a.port.getD defaultPort }

/-- the configuration of a named database from its URL -/
def ofUrl (name url : String) : Outcome DatabaseConfig := do
  let a ← addressOf name url
  let c ← ofAddress name a
  (← c.withParameters a.parameters).checked

/-! ## Text -/

/-- the URL with the password hidden, and without parameters -/
def redactedUrl (c : DatabaseConfig) : String :=
  let login := match c.user, c.password with
    | some user, some _ => user ++ ":***@"
    | some user, none => user ++ "@"
    | none, _ => ""
  c.backend.scheme ++ "://" ++ login ++ c.host ++ ":" ++ toString c.port ++ "/" ++ c.database

/-- a time shown to a programmer -/
def shownTime (seconds : Nat) : String := if seconds = 0 then "0ns" else toString seconds ++ "s"

/-- the text shown to a programmer: the password stays hidden -/
def inspect (c : DatabaseConfig) : String :=
  Text.shownPartly "DbConfig" [("name", Text.shown c.name), ("url", Text.shown c.redactedUrl),
    ("min_size", toString c.minSize), ("max_size", toString c.maxSize),
    ("timeout", Text.shownOption (c.timeout.map shownTime)),
    ("create_db", Text.shownBool c.createsDatabase)]

end DatabaseConfig

end Tabula
