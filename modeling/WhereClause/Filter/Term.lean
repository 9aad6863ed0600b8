import WhereClause.Filter.Literal

/-!
# Filter text as it is written

A `Term` is a filter with its grammar undone and nothing else: operators by kind, doubled signs as
they stand, and constructs that have no counterpart in an expression tree, such as map literals.
-/

set_option autoImplicit false

namespace WhereClause.Filter

/-- Sums and products. -/
inductive Arithmetic where
  | add | subtract | multiply | divide | modulo
deriving DecidableEq

/-- Comparisons and membership. -/
inductive Relation where
  | lessThan | lessOrEqual | greaterThan | greaterOrEqual | equal | notEqual | member
deriving DecidableEq

/-- The signs in front of an operand.  Two signs in a row are one token. -/
inductive Sign where
  | not | notNot | minus | minusMinus
deriving DecidableEq

/-- A filter as written. -/
inductive Term where
  /-- A literal. -/
  | atom (a : Atom)
  /-- A name. -/
  | ident (name : String)
  /-- A name after a dot. -/
  | attribute (operand : Term) (name : String)
  /-- An index in brackets. -/
  | index (operand key : Term)
  /-- A message: named values in braces after an operand. -/
  | message (operand : Term) (fields : List (String × Term))
  /-- A call, with the receiver if it is written as a method. -/
  | call (function : Term) (target : Option Term) (args : List Term)
  | arithmetic (op : Arithmetic) (left right : Term)
  | relation (op : Relation) (left right : Term)
  | and (left right : Term)
  | or (left right : Term)
  | unary (sign : Sign) (operand : Term)
  /-- A condition and its two branches. -/
  | ternary (condition yes no : Term)
  | list (elements : List Term)
  /-- A map: keys and values in braces. -/
  | map (entries : List (Term × Term))

end WhereClause.Filter
