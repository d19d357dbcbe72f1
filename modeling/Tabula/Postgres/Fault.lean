import Tabula.Error
/-!
# Faults

What can go wrong between a program and its server, and the error that each fault is reported as.  What the server
itself reports is sorted by the class of its five-letter code.
-/

namespace Tabula.Postgres

/-- a failure that the server reports -/
structure Report where
  /-- five letters, of which the first two are the class -/
  code : String
  message : String
  detail : Option String := none
  deriving DecidableEq, Repr

/-- a failure of a request -/
inductive Fault where
  | reported (report : Report)
  /-- no connection could be made -/
  | unreachable
  /-- the connection broke -/
  | broken
  /-- the connection was closed before -/
  | closed
  /-- the parameter at a position cannot be bound -/
  | parameter (position : Nat)
  | parameterCount (expected actual : Nat)
  /-- the cell at a position cannot be read -/
  | cell (position : Nat)
  deriving DecidableEq, Repr

/-- the message with the detail behind it -/
def Report.text (r : Report) : String :=
  match r.detail with
  | some d => r.message ++ ": " ++ d
  | none => r.message

/-- the error of a reported failure, by the class of its code -/
def Report.toError (r : Report) : Error :=
  match String.ofList (r.code.toList.take 2) with
  | "23" => ⟨.integrity, r.text⟩
  | "42" | "57" => ⟨.operational, r.text⟩
  | "25" | "2D" => ⟨.transaction, r.text⟩
  | "08" | "28" | "3D" => ⟨.connection, r.text⟩
  | _ => ⟨.database, r.text ++ " (SQLSTATE " ++ r.code ++ ")"⟩

namespace Fault

/-- what a fault says by itself -/
def text : Fault → String
  | reported _ => "db error"
  | unreachable => "error connecting to server"
  | broken => "error communicating with the server"
  | closed => "connection closed"
  | parameter n => "error serializing parameter " ++ toString n
  | parameterCount expected actual =>
    "expected " ++ toString expected ++ " parameters but got " ++ toString actual
  | cell n => "error deserializing column " ++ toString n

/-- the error that a fault is reported as -/
def toError (f : Fault) : Error :=
  match f with
  | reported r => r.toError
  | unreachable | broken | closed => ⟨.connection, f.text⟩
  | parameter _ | parameterCount _ _ | cell _ => ⟨.database, f.text⟩

/-- whether the server does not know the database -/
def isUnknownDatabase : Fault → Bool
  | reported r => r.code = "3D000"
  | _ => false

end Fault

end Tabula.Postgres
