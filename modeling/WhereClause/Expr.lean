import WhereClause.Operator
import WhereClause.Value

/-!
# Expression trees

An `Expr` is a filter after parsing.  Operators, indexing, membership and the conditional are all
calls, told apart by the name of the function; a call has a receiver when it is written as a
method.

`Expr.source` writes a tree out again.  Operators on the right number of operands come out as
operators, the binary ones between parentheses; every other call is written as one.
-/

set_option autoImplicit false

namespace WhereClause

/-- An expression tree. -/
inductive Expr where
  /-- A value spelled out. -/
  | literal (value : Value)
  /-- A variable. -/
  | ident (name : String)
  /-- A field of a value. -/
  | select (operand : Expr) (field : String)
  /-- A function applied to arguments, or, with a receiver, a method. -/
  | call (function : String) (target : Option Expr) (args : List Expr)
  /-- A list. -/
  | list (elements : List Expr)

namespace Expr

/-- An operator between two operands. -/
def binary (op : BinaryOp) (left right : Expr) : Expr :=
  .call op.name none [left, right]

/-- An operator in front of an operand. -/
def unary (op : UnaryOp) (operand : Expr) : Expr :=
  .call op.name none [operand]

/-- A call without receiver. -/
def globalCall (function : String) (args : List Expr) : Expr :=
  .call function none args

/-- A call with receiver. -/
def method (target : Expr) (function : String) (args : List Expr) : Expr :=
  .call function (some target) args

/-- The kind of node at the root of a tree. -/
def kindName : Expr → String
  | .literal _ => "literal"
  | .ident _ => "ident"
  | .select _ _ => "select"
  | .call _ _ _ => "call"
  | .list _ => "list"

/-- The value at the root of a tree, if it is a literal. -/
def literal? : Expr → Option Value
  | .literal v => some v
  | _ => none

/-- Pieces of text with a comma and a space between them. -/
def commaJoin (pieces : List (List Char)) : List Char :=
  [',', ' '].intercalate pieces

/-- A call, given the texts of its receiver and of its arguments. -/
def callSource (function : String) (target : Option (List Char)) (args : List (List Char)) :
    List Char :=
  match target, args with
  | some target, args => target ++ '.' :: (function.toList ++ '(' :: (commaJoin args ++ [')']))
  | none, args =>
    match BinaryOp.ofName? function, UnaryOp.ofName? function, args with
    | some op, _, [left, right] =>
      '(' :: (left ++ ' ' :: (op.symbol.toList ++ ' ' :: (right ++ [')'])))
    | _, some op, [operand] => op.symbol.toList ++ operand
    | _, _, args => function.toList ++ '(' :: (commaJoin args ++ [')'])

mutual

/-- A tree as filter text. -/
def source : Expr → List Char
  | .literal value => value.source
  | .ident name => name.toList
  | .select operand field => operand.source ++ '.' :: field.toList
  | .call function target args => callSource function (targetSource target) (sources args)
  | .list elements => '[' :: (commaJoin (sources elements) ++ [']'])

/-- The text of a receiver. -/
def targetSource : Option Expr → Option (List Char)
  | none => none
  | some target => some target.source

/-- The texts of several trees. -/
def sources : List Expr → List (List Char)
  | [] => []
  | e :: es => e.source :: sources es

end

theorem sources_eq_map (es : List Expr) : sources es = es.map source := by
  induction es with
  | nil => simp [sources]
  | cons e es ih => simp [sources, ih]

/-- A tree as filter text. -/
def text (e : Expr) : String :=
  String.ofList e.source

end Expr

end WhereClause
