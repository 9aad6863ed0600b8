import WhereClause.Expr
import WhereClause.Filter.Grammar

/-!
# From terms to expression trees

`Term.lower` gives each construct of a filter its place in an expression tree.  Operators become
calls of their functions, a doubled sign becomes two calls, and a minus sign in front of a number is
taken into the number.  Map literals, byte strings, messages and calls of anything but a name have
no place; the first of them, in the order in which a filter is read, is the error.

`parse` goes all the way from text to tree.
-/

set_option autoImplicit false

namespace WhereClause

namespace Filter

/-- A construct that expression trees do not have. -/
inductive Construct where
  | mapLiteral | bytesLiteral | message | computedCall
deriving DecidableEq

/-- The construct in words. -/
def Construct.description : Construct → String
  | .mapLiteral => "map literal"
  | .bytesLiteral => "bytes literal"
  | .message => "message construction"
  | .computedCall => "call of a computed function"

/-- The binary operator of an arithmetic operator. -/
def Arithmetic.binaryOp : Arithmetic → BinaryOp
  | .add => .add
  | .subtract => .subtract
  | .multiply => .multiply
  | .divide => .divide
  | .modulo => .modulo

/-- The function a relation calls. -/
def Relation.function : Relation → String
  | .lessThan => BinaryOp.lessThan.name
  | .lessOrEqual => BinaryOp.lessOrEqual.name
  | .greaterThan => BinaryOp.greaterThan.name
  | .greaterOrEqual => BinaryOp.greaterOrEqual.name
  | .equal => BinaryOp.equal.name
  | .notEqual => BinaryOp.notEqual.name
  | .member => "@in"

/-- The function an index calls. -/
def indexFunction : String := "_[_]"

/-- The function a conditional calls. -/
def conditionalFunction : String := "_?_:_"

/-- The value of a literal; byte strings have none. -/
def Atom.value : Atom → Except Construct Value
  | .null => .ok .null
  | .bool b => .ok (.bool b)
  | .int i => .ok (.int i)
  | .uint u => .ok (.uint u)
  | .float d => .ok (.double d)
  | .string s => .ok (.string s)
  | .bytes _ => .error .bytesLiteral

/-- A tree with a minus sign in front.  The sign of a number is turned around, unless the result
would not fit. -/
def negated : Expr → Expr
  | .literal (.int i) =>
    if i = Int64.minValue then .unary .negate (.literal (.int i)) else .literal (.int (-i))
  | .literal (.double d) => .literal (.double (-d))
  | e => .unary .negate e

/-- A tree with a sign in front. -/
def Sign.apply : Sign → Expr → Expr
  | .not, e => .unary .not e
  | .notNot, e => .unary .not (.unary .not e)
  | .minus, e => negated e
  | .minusMinus, e => .unary .negate (.unary .negate e)

mutual

/-- The expression tree of a term, or the first construct that has none. -/
def Term.lower : Term → Except Construct Expr
  | .atom a => do return .literal (← a.value)
  | .ident name => .ok (.ident name)
  | .attribute operand name => do return .select (← operand.lower) name
  | .index operand key => do
    return .globalCall indexFunction [← operand.lower, ← key.lower]
  | .message operand _ => do
    let _ ← operand.lower
    .error .message
  | .call (.ident function) none args => do return .globalCall function (← lowerAll args)
  | .call (.ident function) (some target) args => do
    let target ← target.lower
    return .method target function (← lowerAll args)
  | .call _ _ _ => .error .computedCall
  | .arithmetic op left right => do
    return .binary op.binaryOp (← left.lower) (← right.lower)
  | .relation op left right => do
    return .globalCall op.function [← left.lower, ← right.lower]
  | .and left right => do return .binary .and (← left.lower) (← right.lower)
  | .or left right => do return .binary .or (← left.lower) (← right.lower)
  | .unary sign operand => do return sign.apply (← operand.lower)
  | .ternary condition yes no => do
    return .globalCall conditionalFunction [← condition.lower, ← yes.lower, ← no.lower]
  | .list elements => do return .list (← lowerAll elements)
  | .map _ => .error .mapLiteral

/-- The expression trees of several terms. -/
def lowerAll : List Term → Except Construct (List Expr)
  | [] => .ok []
  | t :: ts => do return (← t.lower) :: (← lowerAll ts)

end

end Filter

/-- Why a text has no expression tree. -/
inductive ParseError where
  /-- The text is no filter. -/
  | malformed (e : Filter.SyntaxError)
  /-- The filter uses a construct without a place in the tree. -/
  | unsupported (c : Filter.Construct)
deriving DecidableEq

/-- Why a text has no expression tree, in words. -/
def ParseError.message : ParseError → String
  | .malformed e => "Syntax error: Error parsing: " ++ e.message
  | .unsupported c => "Unsupported construct: " ++ c.description

/-- The expression tree of a filter text. -/
def parse (text : String) : Except ParseError Expr :=
  match Filter.Term.parse text with
  | .error e => .error (.malformed e)
  | .ok t => match t.lower with
    | .error c => .error (.unsupported c)
    | .ok e => .ok e

end WhereClause
