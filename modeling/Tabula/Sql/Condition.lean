import Tabula.Sql.Quoted
/-!
# Conditions

The conditions of a statement as data.  `Condition ε` is built over operands of any type `ε`; `text` writes it,
given the text of its operands.  A group of two or more parts stands in parentheses, and so does what is
negated, so the text reads back with NOT binding tighter than AND and AND tighter than OR.
-/

namespace Tabula.Sql

/-- how the parts of a group are joined -/
inductive Join where
  | and | or
  deriving DecidableEq

/-- the keyword of a join -/
def Join.keyword : Join → String
  | and => "AND"
  | or => "OR"

/-- an operator between two operands -/
inductive Operator where
  | equal | unequal | greater | atLeast | less | atMost
  | like
  /-- of documents: has the key, all of the keys, any of the keys -/
  | hasKey | hasKeys | hasAnyKey
  /-- of documents: holds the other, is held by it -/
  | holds | heldBy
  deriving DecidableEq

/-- the sign of an operator -/
def Operator.sign : Operator → String
  | equal => "="
  | unequal => "<>"
  | greater => ">"
  | atLeast => ">="
  | less => "<"
  | atMost => "<="
  | like => "LIKE"
  | hasKey => "?"
  | hasKeys => "?&"
  | hasAnyKey => "?|"
  | holds => "@>"
  | heldBy => "<@"

/-- an operand, or its text in capitals -/
inductive Term (ε : Type) where
  | plain (e : ε)
  | upper (e : ε)
  deriving DecidableEq

/-- a condition over operands of type `ε` -/
inductive Condition (ε : Type) where
  /-- an operator between two terms -/
  | compare (op : Operator) (left right : Term ε)
  /-- membership in a list -/
  | among (left right : ε)
  | isNull (e : ε)
  | isNotNull (e : ε)
  | neg (c : Condition ε)
  | group (join : Join) (parts : List (Condition ε))

namespace Condition

variable {ε : Type}

/-- joins parts, if there are any; one part stands alone -/
def joined (join : Join) : List (Condition ε) → Option (Condition ε)
  | [] => none
  | [c] => some c
  | parts => some (group join parts)

/-- the condition that an operand is missing, or that it is present -/
def missing (flag : Bool) (e : ε) : Condition ε := if flag then isNull e else isNotNull e

/-- a condition, or a missing operand -/
def orNull (c : Condition ε) (e : ε) : Condition ε := group .or [c, isNull e]

end Condition

/-- the text of a term -/
def Term.text {ε : Type} (operand : ε → String) : Term ε → String
  | plain e => operand e
  | upper e => "UPPER(" ++ operand e ++ ")"

namespace Condition

variable {ε : Type}

mutual

/-- the text of a condition -/
def text (operand : ε → String) : Condition ε → String
  | compare op a b => a.text operand ++ " " ++ op.sign ++ " " ++ b.text operand
  | among a b => operand a ++ " = ANY(" ++ operand b ++ ")"
  | isNull e => operand e ++ " IS NULL"
  | isNotNull e => operand e ++ " IS NOT NULL"
  | neg c => "NOT (" ++ text operand c ++ ")"
  | group join parts => "(" ++ (" " ++ join.keyword ++ " ").intercalate (texts operand parts) ++ ")"

/-- the texts of several conditions -/
def texts (operand : ε → String) : List (Condition ε) → List String
  | [] => []
  | c :: cs => text operand c :: texts operand cs

end

/-- conditions that all have to hold, side by side -/
def listText (operand : ε → String) (cs : List (Condition ε)) : String :=
  " AND ".intercalate (texts operand cs)

end Condition

end Tabula.Sql
