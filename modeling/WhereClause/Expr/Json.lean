import WhereClause.Decimal.Integer
import WhereClause.Expr
import WhereClause.Json

/-!
# Expressions in JSON

`Expr.ofJson?` reads a tree from a JSON value.  A node is an object with one field, named after the
kind of node.  A call may leave out its receiver and its arguments, and may also be written as an
array of function, receiver and arguments; the null literal may be written as a bare string.
Fields of a call or of a selection that have no meaning are passed over, those that have one may
occur only once.
-/

set_option autoImplicit false

namespace WhereClause

/-- A literal value of a JSON value. -/
def Value.ofJson? : Json → Option Value
  | .string "null" => some .null
  | .object [("null", .null)] => some .null
  | .object [("bool", .bool b)] => some (.bool b)
  | .object [("int", .number n)] => do return .int (← Decimal.int64? (← n.int?))
  | .object [("uint", .number n)] => do return .uint (← Decimal.uint64? (← n.int?))
  | .object [("double", .number n)] =>
    let d := Binary64.ofNumeral n.numeral
    if d.isFinite then some (.double d) else none
  | .object [("string", .string s)] => some (.string s)
  | _ => none

namespace Expr

/-- The one value of a field that may be left out: none means the default, several are refused. -/
def atMostOne? {α : Type} (default : α) : List α → Option α
  | [] => some default
  | [a] => some a
  | _ => none

/-- The receiver of a JSON value, given the tree read from it: null stands for no receiver. -/
def receiver? : Json → Option Expr → Option (Option Expr)
  | .null, _ => some none
  | _, tree? => tree?.map some

mutual

/-- Reads a tree from a JSON value. -/
def ofJson? : Json → Option Expr
  | .object [("literal", body)] => (Value.ofJson? body).map .literal
  | .object [("ident", .string name)] => some (.ident name)
  | .object [("select", .object fields)] => do
    let [operand] ← operandsOf? fields | none
    return .select operand (← Json.stringOf? "field" fields)
  | .object [("call", .object fields)] => do
    let function ← Json.stringOf? "function" fields
    let target ← atMostOne? none (← targetsOf? fields)
    let args ← atMostOne? [] (← argumentsOf? fields)
    return .call function target args
  | .object [("call", .array [.string function])] => some (.call function none [])
  | .object [("call", .array [.string function, target])] => do
    return .call function (← receiver? target (ofJson? target)) []
  | .object [("call", .array [.string function, target, .array args])] => do
    return .call function (← receiver? target (ofJson? target)) (← listOfJson? args)
  | .object [("list", .array elements)] => (listOfJson? elements).map .list
  | _ => none

/-- Reads every tree of an array. -/
def listOfJson? : List Json → Option (List Expr)
  | [] => some []
  | json :: rest => do return (← ofJson? json) :: (← listOfJson? rest)

/-- Reads the trees of all fields `operand`. -/
def operandsOf? : List (String × Json) → Option (List Expr)
  | [] => some []
  | (name, json) :: rest =>
    if name = "operand" then do return (← ofJson? json) :: (← operandsOf? rest)
    else operandsOf? rest

/-- Reads the receivers of all fields `target`. -/
def targetsOf? : List (String × Json) → Option (List (Option Expr))
  | [] => some []
  | (name, json) :: rest =>
    if name = "target" then do return (← receiver? json (ofJson? json)) :: (← targetsOf? rest)
    else targetsOf? rest

/-- Reads the argument lists of all fields `args`. -/
def argumentsOf? : List (String × Json) → Option (List (List Expr))
  | [] => some []
  | (name, json) :: rest =>
    if name = "args" then
      match json with
      | .array args => do return (← listOfJson? args) :: (← argumentsOf? rest)
      | _ => none
    else argumentsOf? rest

end

end Expr

end WhereClause
