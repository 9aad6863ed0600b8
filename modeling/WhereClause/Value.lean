import WhereClause.Decimal.Layout
import WhereClause.Text.Quoted

/-!
# Literal values

The values a filter can spell out: null, truth values, signed and unsigned 64-bit integers, double
precision numbers and strings.
-/

set_option autoImplicit false

namespace WhereClause

/-- A literal value. -/
inductive Value where
  | null
  | bool (b : Bool)
  | int (i : Int64)
  | uint (u : UInt64)
  | double (d : Binary64)
  | string (s : String)
deriving DecidableEq

namespace Value

/-- The name of the type a value belongs to. -/
def typeName : Value → String
  | .null => "null_type"
  | .bool _ => "bool"
  | .int _ => "int"
  | .uint _ => "uint"
  | .double _ => "double"
  | .string _ => "string"

/-- A value as it is spelled in a filter: unsigned integers end in `u`, doubles always have a
fraction or an exponent, strings are quoted. -/
def source : Value → List Char
  | .null => "null".toList
  | .bool true => "true".toList
  | .bool false => "false".toList
  | .int i => Decimal.intText i.toInt
  | .uint u => Decimal.natText u.toNat ++ ['u']
  | .double d => (d.text .source).toList
  | .string s => Text.quoted s.toList

end Value

end WhereClause
