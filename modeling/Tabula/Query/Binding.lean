import Tabula.Value.Basic
/-!
# Binding parameters

While a statement is compiled, its parameters are collected in the order of their placeholders.  What has been
bound stays bound when the compilation fails.
-/

namespace Tabula

/-- a compilation that may fail and collects parameters -/
abbrev Binding := ExceptT Error (StateM (List Value))

namespace Binding

/-- binds a value and gives the number of its placeholder -/
def bind (v : Value) : Binding Nat := do
  let params ← get
  set (params ++ [v])
  return params.length + 1

/-- fails, keeping what is bound -/
def fail {α : Type} (kind : ErrorKind) (detail : String) : Binding α := throw ⟨kind, detail⟩

/-- an outcome that binds nothing -/
def lift {α : Type} (o : Outcome α) : Binding α := ExceptT.mk (pure o)

/-- runs a compilation with some parameters already bound; gives its outcome and all parameters -/
def runWith {α : Type} (params : List Value) (b : Binding α) : Outcome α × List Value :=
  let (outcome, params) := (ExceptT.run b).run params
  (outcome, params)

/-- the result together with its parameters -/
def collect {α : Type} (b : Binding α) : Outcome (α × List Value) :=
  match b.runWith [] with
  | (.ok a, params) => .ok (a, params)
  | (.error e, _) => .error e

end Binding

end Tabula
