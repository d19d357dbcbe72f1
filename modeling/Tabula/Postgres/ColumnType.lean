/-!
# Types of columns

The types that the server reports for parameters and columns, with their names and numbers.
-/

namespace Tabula.Postgres

/-- the type of a parameter or a column -/
inductive ColumnType where
  | bool | bytea | name | int2 | int4 | int8 | text | oid | float4 | float8 | unknown
  | bpchar | varchar | date | timestamp | timestamptz | numeric | uuid | json | jsonb
  | array (elements : ColumnType)
  /-- a type without values of its own here -/
  | other (name : String)
  deriving DecidableEq, Repr

namespace ColumnType

/-- the types with values of their own, by name and number -/
def known : List (ColumnType × String × Nat) :=
  [(bool, "bool", 16), (bytea, "bytea", 17), (name, "name", 19), (int8, "int8", 20), (int2, "int2", 21),
    (int4, "int4", 23), (text, "text", 25), (oid, "oid", 26), (json, "json", 114), (float4, "float4", 700),
    (float8, "float8", 701), (unknown, "unknown", 705), (bpchar, "bpchar", 1042), (varchar, "varchar", 1043),
    (date, "date", 1082), (timestamp, "timestamp", 1114), (timestamptz, "timestamptz", 1184),
    (numeric, "numeric", 1700), (uuid, "uuid", 2950), (jsonb, "jsonb", 3802)]

/-- the numbers of other common types -/
def otherNumbers : List (String × Nat) :=
  [("char", 18), ("xml", 142), ("point", 600), ("cidr", 650), ("money", 790), ("macaddr", 829), ("inet", 869),
    ("time", 1083), ("interval", 1186), ("timetz", 1266), ("bit", 1560), ("varbit", 1562)]

/-- the name of a type; that of an array begins with an underscore -/
def label : ColumnType → String
  | array t => "_" ++ t.label
  | other s => s
  | t => ((known.lookup t).map Prod.fst).getD ""

/-- the number of a type that is no array; 0 if it is not known -/
def number : ColumnType → Nat
  | other s => (otherNumbers.lookup s).getD 0
  | t => ((known.lookup t).map Prod.snd).getD 0

/-- the type of a name -/
def ofLabel (s : String) : ColumnType :=
  let plain (s : String) : ColumnType := ((known.find? fun e => e.2.1 = s).map Prod.fst).getD (other s)
  match s.toList with
  | '_' :: rest => array (plain (String.ofList rest))
  | _ => plain s

/-- whether cells of the type are text -/
def isTextual (t : ColumnType) : Bool := [text, varchar, bpchar, name, unknown].contains t

/-- whether the type is one of the two unbounded text types -/
def isFreeText (t : ColumnType) : Bool := t = text || t = varchar

/-- whether cells of the type are documents -/
def isDocument (t : ColumnType) : Bool := t = json || t = jsonb

/-- the element types whose arrays can be read -/
def readableElements : List ColumnType := [bool, int2, int4, int8, float8, text, varchar, uuid, json, jsonb]

end ColumnType

end Tabula.Postgres
