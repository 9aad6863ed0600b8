import WhereClause.Decimal.Numeral

/-!
# JSON values

A JSON document as a tree.  Two things that other models drop are kept, because the expression
reader looks at them: whether a number was written as an integer, and the fields of an object in the
order, and as often, as they were written.
-/

set_option autoImplicit false

namespace WhereClause

/-- A number of a JSON document. -/
inductive Json.Number where
  /-- Digits with an optional minus sign. -/
  | integer (negative : Bool) (magnitude : Nat)
  /-- A number written with a fraction, an exponent or both. -/
  | decimal (numeral : Numeral)
deriving DecidableEq

/-- A JSON value. -/
inductive Json where
  | null
  | bool (b : Bool)
  | number (n : Json.Number)
  | string (s : String)
  | array (elements : List Json)
  | object (fields : List (String × Json))

namespace Json

/-- A number as a decimal numeral. -/
def Number.numeral : Number → Numeral
  | .integer negative magnitude => ⟨negative, magnitude, 0⟩
  | .decimal n => n

/-- The whole number a token stands for.  A negative zero is no whole number. -/
def Number.int? : Number → Option Int
  | .integer false n => some n
  | .integer true 0 => none
  | .integer true n => some (-(n : Int))
  | .decimal _ => none

/-- The values of all fields of one name. -/
def valuesOf (name : String) (fields : List (String × Json)) : List Json :=
  (fields.filter fun f ↦ f.1 == name).map (·.2)

/-- The text of the field of one name, which must occur exactly once. -/
def stringOf? (name : String) (fields : List (String × Json)) : Option String :=
  match valuesOf name fields with
  | [.string s] => some s
  | _ => none

end Json

end WhereClause
