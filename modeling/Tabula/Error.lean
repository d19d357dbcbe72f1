/-!
# Errors

Every failing operation gives an `Error`: the kind, by which callers react, and a detail.  `message` is the
text shown, the kind's label in front.
-/

namespace Tabula

/-- what went wrong, by the way callers react to it -/
inductive ErrorKind where
  /-- a mistake in an address, a model or an option -/
  | configuration
  /-- a field name that a model does not declare -/
  | field
  /-- a value that a field cannot hold -/
  | fieldValue
  /-- bad arguments of an operation -/
  | params
  /-- no connection to the database -/
  | connection
  /-- a statement that the database refuses to run -/
  | operational
  /-- a constraint of the database is violated -/
  | integrity
  /-- a command in a transaction state that does not allow it -/
  | transaction
  /-- any other failure of the database -/
  | database
  /-- no row where one was expected -/
  | doesNotExist
  /-- several rows where one was expected -/
  | multipleObjects
  /-- the version that a write observed is gone -/
  | stale
  /-- the key of a stored row was assigned -/
  | keyChanged
  /-- a composite key is incomplete -/
  | keyIntegrity
  /-- a document that cannot be read -/
  | serialization
  /-- a file that cannot be read -/
  | file
  deriving DecidableEq, Repr

/-- the label of a kind in messages -/
def ErrorKind.label : ErrorKind → String
  | configuration => "Configuration error"
  | field => "Field error"
  | fieldValue => "Field value error"
  | params => "Params error"
  | connection => "Database connection error"
  | operational => "Operational error"
  | integrity => "Integrity error"
  | transaction => "Transaction management error"
  | database => "Database error"
  | doesNotExist => "Object does not exist"
  | multipleObjects => "Multiple objects returned when one expected"
  | stale => "Stale object"
  | keyChanged => "Primary key changed"
  | keyIntegrity => "Primary key integrity error"
  | serialization => "Serialization error"
  | file => "IO error"

namespace ErrorKind

/-- the kinds, each with the name that a programmer knows it by -/
def names : List (String × ErrorKind) :=
  [("ConfigurationError", configuration), ("FieldError", field), ("FieldValueError", fieldValue),
    ("ParamsError", params), ("DbConnectionError", connection), ("OperationalError", operational),
    ("IntegrityError", integrity), ("TransactionManagementError", transaction), ("DatabaseError", database),
    ("DoesNotExist", doesNotExist), ("MultipleObjectsReturned", multipleObjects), ("StaleObjectError", stale),
    ("PrimaryKeyChanged", keyChanged), ("PrimaryKeyIntegrityError", keyIntegrity),
    ("SerializationError", serialization), ("IoError", file)]

/-- the name of a kind -/
def name (kind : ErrorKind) : String := ((names.find? fun e => e.2 = kind).map Prod.fst).getD ""

/-- the kind of a name -/
def ofName? (name : String) : Option ErrorKind := names.lookup name

end ErrorKind

/-- a failure -/
structure Error where
  kind : ErrorKind
  detail : String
  deriving DecidableEq, Repr

namespace Error

/-- the text shown -/
def message (e : Error) : String := e.kind.label ++ ": " ++ e.detail

/-- whether no row was found -/
def isNotFound (e : Error) : Bool := e.kind = .doesNotExist

/-- whether a constraint was violated -/
def isIntegrity (e : Error) : Bool := e.kind = .integrity

/-- whether the caller may load the row again and retry the write -/
def isRetryable (e : Error) : Bool := e.kind = .stale

/-- whether the mistake lies in a definition or an argument -/
def isConfiguration (e : Error) : Bool :=
  e.kind = .configuration || e.kind = .field || e.kind = .params

end Error

/-- the outcome of an operation that may fail -/
abbrev Outcome (α : Type) := Except Error α

/-- a failure of the given kind -/
def failure {α : Type} (kind : ErrorKind) (detail : String) : Outcome α := .error ⟨kind, detail⟩

end Tabula
