/-!
# Operators

Filters have thirteen binary and two unary operators.  In an expression tree an operator is a call
of a function with a reserved name, such as `_+_`; `BinaryOp.ofName?` and `UnaryOp.ofName?` tell
which names are reserved.
-/

set_option autoImplicit false

namespace WhereClause

/-- The operators between two operands. -/
inductive BinaryOp where
  | add | subtract | multiply | divide | modulo
  | equal | notEqual | greaterThan | lessThan | greaterOrEqual | lessOrEqual
  | and | or
deriving DecidableEq

namespace BinaryOp

/-- All binary operators. -/
def all : List BinaryOp :=
  [add, subtract, multiply, divide, modulo, equal, notEqual, greaterThan, lessThan,
    greaterOrEqual, lessOrEqual, and, or]

theorem mem_all (op : BinaryOp) : op ∈ all := by
  cases op <;> decide

/-- The operator as it is spelled in a filter. -/
def symbol : BinaryOp → String
  | add => "+"
  | subtract => "-"
  | multiply => "*"
  | divide => "/"
  | modulo => "%"
  | equal => "=="
  | notEqual => "!="
  | greaterThan => ">"
  | lessThan => "<"
  | greaterOrEqual => ">="
  | lessOrEqual => "<="
  | and => "&&"
  | or => "||"

/-- The name of the function an operator calls. -/
def name : BinaryOp → String
  | add => "_+_"
  | subtract => "_-_"
  | multiply => "_*_"
  | divide => "_/_"
  | modulo => "_%_"
  | equal => "_==_"
  | notEqual => "_!=_"
  | greaterThan => "_>_"
  | lessThan => "_<_"
  | greaterOrEqual => "_>=_"
  | lessOrEqual => "_<=_"
  | and => "_&&_"
  | or => "_||_"

/-- The binary operator that calls a function of this name. -/
def ofName? (name : String) : Option BinaryOp :=
  all.find? fun op ↦ op.name == name

theorem ofName?_name (op : BinaryOp) : ofName? op.name = some op := by
  cases op <;> decide

theorem name_of_ofName? {name : String} {op : BinaryOp} (h : ofName? name = some op) :
    op.name = name := by
  simpa using List.find?_some h

end BinaryOp

/-- The operators in front of one operand. -/
inductive UnaryOp where
  | not | negate
deriving DecidableEq

namespace UnaryOp

/-- All unary operators. -/
def all : List UnaryOp := [not, negate]

theorem mem_all (op : UnaryOp) : op ∈ all := by
  cases op <;> decide

/-- The operator as it is spelled in a filter. -/
def symbol : UnaryOp → String
  | not => "!"
  | negate => "-"

/-- The name of the function an operator calls. -/
def name : UnaryOp → String
  | not => "!_"
  | negate => "-_"

/-- The unary operator that calls a function of this name. -/
def ofName? (name : String) : Option UnaryOp :=
  all.find? fun op ↦ op.name == name

theorem ofName?_name (op : UnaryOp) : ofName? op.name = some op := by
  cases op <;> decide

theorem name_of_ofName? {name : String} {op : UnaryOp} (h : ofName? name = some op) :
    op.name = name := by
  simpa using List.find?_some h

end UnaryOp

end WhereClause
