import WhereClause.Expr
import WhereClause.Scope

/-!
# Checking a tree against a scope

`Scope.check` passes a tree if every variable in it is declared and every call has an overload with
the same number of arguments, called the same way.  Otherwise it reports the first node, reading
from the root and from left to right, that is not; a call comes before its receiver and its
arguments.
-/

set_option autoImplicit false

namespace WhereClause

/-- Why a tree does not fit a scope. -/
inductive CheckError where
  | undeclaredReference (name : String)
  | undeclaredFunction (name : String)
  | noMatchingOverload (function : String) (args : Nat) (member : Bool)
deriving DecidableEq

/-- The reason in words. -/
def CheckError.message : CheckError → String
  | .undeclaredReference name => "Undeclared reference: " ++ name
  | .undeclaredFunction name => "Undeclared function: " ++ name
  | .noMatchingOverload function args member =>
    "No matching overload for '" ++ function ++ "' with " ++ toString args ++
      " argument(s), member call: " ++ (if member then "true" else "false")

namespace Scope

/-- Checks the function of a call. -/
def checkCall (s : Scope) (function : String) (args : Nat) (member : Bool) :
    Except CheckError Unit :=
  match s.function? function with
  | none => .error (.undeclaredFunction function)
  | some f =>
    if f.accepts args member then .ok () else .error (.noMatchingOverload function args member)

mutual

/-- Checks a tree. -/
def check (s : Scope) : Expr → Except CheckError Unit
  | .literal _ => .ok ()
  | .ident name =>
    if (s.typeOf? name).isSome then .ok () else .error (.undeclaredReference name)
  | .select operand _ => s.check operand
  | .call function target args => do
    s.checkCall function args.length target.isSome
    s.checkTarget target
    s.checkAll args
  | .list elements => s.checkAll elements

/-- Checks a receiver. -/
def checkTarget (s : Scope) : Option Expr → Except CheckError Unit
  | none => .ok ()
  | some target => s.check target

/-- Checks several trees from left to right. -/
def checkAll (s : Scope) : List Expr → Except CheckError Unit
  | [] => .ok ()
  | e :: es => do
    s.check e
    s.checkAll es

end

end Scope

end WhereClause
