import WhereClause.Operator

/-!
# SQL text

The pieces SQL fragments are made of: quoted strings, patterns for `LIKE`, the words for the
operators.  Two characters are special between quotes, the quote and the backslash, and three in a
pattern, the backslash and the wildcards `%` and `_`; a backslash takes their meaning away.  A
pattern is escaped for `LIKE` first and then quoted.
-/

set_option autoImplicit false

namespace WhereClause.Sql

/-- A text with a backslash in front of every character for which `special` holds. -/
def escape (special : Char → Bool) : List Char → List Char
  | [] => []
  | c :: cs => if special c then '\\' :: c :: escape special cs else c :: escape special cs

/-- The characters that have a meaning between quotes. -/
def isQuoteSpecial (c : Char) : Bool :=
  c == '"' || c == '\\'

/-- The characters that have a meaning in a pattern. -/
def isPatternSpecial (c : Char) : Bool :=
  c == '\\' || c == '%' || c == '_'

/-- A string literal. -/
def quote (cs : List Char) : List Char :=
  '"' :: (escape isQuoteSpecial cs ++ ['"'])

/-- A text as a pattern that matches nothing but this text. -/
def escapeLike (cs : List Char) : List Char :=
  escape isPatternSpecial cs

/-- The literal of a pattern for everything that starts with a text. -/
def startPattern (cs : List Char) : List Char :=
  quote (escapeLike cs ++ ['%'])

/-- The literal of a pattern for everything that ends with a text. -/
def endPattern (cs : List Char) : List Char :=
  quote ('%' :: escapeLike cs)

/-- The time at a number of seconds since 1970. -/
def fromUnixTime (seconds : List Char) : List Char :=
  "FROM_UNIXTIME(".toList ++ seconds ++ [')']

/-- The SQL word of a binary operator. -/
def binaryToken : BinaryOp → String
  | .and => "AND"
  | .or => "OR"
  | op => op.symbol

/-- The SQL word of a unary operator. -/
def unaryToken : UnaryOp → String
  | .not => "NOT"
  | .negate => "-"

end WhereClause.Sql
