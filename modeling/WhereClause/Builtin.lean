import WhereClause.NameSet
import WhereClause.Operator

/-!
# Functions with a form in SQL

Of all functions a filter may call, these are the ones SQL text can be written for: the operators,
the tests for the start and the end of a string, and timestamps.
-/

set_option autoImplicit false

namespace WhereClause

/-- A function with a form in SQL. -/
inductive Builtin where
  | binary (op : BinaryOp)
  | unary (op : UnaryOp)
  | startsWith
  | endsWith
  | timestamp
deriving DecidableEq

namespace Builtin

/-- The name of the function. -/
def name : Builtin → String
  | .binary op => op.name
  | .unary op => op.name
  | .startsWith => "startsWith"
  | .endsWith => "endsWith"
  | .timestamp => "timestamp"

/-- All of them. -/
def all : List Builtin :=
  BinaryOp.all.map .binary ++ UnaryOp.all.map .unary ++ [.startsWith, .endsWith, .timestamp]

theorem mem_all (b : Builtin) : b ∈ all := by
  cases b <;> simp [all, BinaryOp.mem_all, UnaryOp.mem_all]

/-- The function of this name. -/
def ofName? (name : String) : Option Builtin :=
  all.find? fun b ↦ b.name == name

theorem ofName?_name (b : Builtin) : ofName? b.name = some b := by
  cases b with
  | binary op => cases op <;> decide
  | unary op => cases op <;> decide
  | _ => decide

theorem name_of_ofName? {name : String} {b : Builtin} (h : ofName? name = some b) :
    b.name = name := by
  simpa using List.find?_some h

/-- The names a filter may call unless it is told otherwise. -/
def names : NameSet :=
  NameSet.ofList (all.map Builtin.name)

end Builtin

end WhereClause
