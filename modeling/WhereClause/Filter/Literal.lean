import WhereClause.Binary64
import WhereClause.Decimal.Integer

/-!
# Literals in filter text

A literal is read in two steps.  `Literal` is what the scanner finds: the digits, or the characters
between the quotes, exactly as written.  `Literal.atom?` works out what they stand for.  It fails on
an integer out of range, on an unknown escape, and on an escape whose digits are no code point.
-/

set_option autoImplicit false

namespace WhereClause.Filter

/-- The value of a literal.  Unlike the values of an expression tree these include byte strings. -/
inductive Atom where
  | null
  | bool (b : Bool)
  | int (i : Int64)
  | uint (u : UInt64)
  | float (d : Binary64)
  | string (s : String)
  | bytes (bs : List UInt8)
deriving DecidableEq

/-- A literal as written. -/
inductive Literal where
  | null
  | bool (b : Bool)
  /-- An integer: its sign, its base and its digits. -/
  | int (negative : Bool) (base : Nat) (digits : List Char)
  /-- An unsigned integer: its sign, its base and its digits. -/
  | uint (negative : Bool) (base : Nat) (digits : List Char)
  | float (numeral : Numeral)
  /-- A string: the quote around it and what stands between. -/
  | string (quote : Char) (body : List Char)
  /-- A string in which a backslash has no meaning but to keep a quote. -/
  | rawString (quote : Char) (body : List Char)
  | bytes (body : List Char)
deriving DecidableEq

/-! ## Digits in a base -/

/-- The value of a digit in a base up to sixteen. -/
def digit? (base : Nat) (c : Char) : Option Nat :=
  let value? :=
    if c.isDigit then some (c.toNat - '0'.toNat)
    else if 'a' ≤ c ∧ c ≤ 'f' then some (c.toNat - 'a'.toNat + 10)
    else if 'A' ≤ c ∧ c ≤ 'F' then some (c.toNat - 'A'.toNat + 10)
    else none
  value?.filter (· < base)

/-- The number spelled by digits in a base, continuing from the value of the digits before. -/
def digitsFrom? (base : Nat) (value : Nat) : List Char → Option Nat
  | [] => some value
  | c :: cs => do digitsFrom? base (base * value + (← digit? base c)) cs

/-- The number spelled by at least one digit in a base. -/
def digits? (base : Nat) : List Char → Option Nat
  | [] => none
  | cs => digitsFrom? base 0 cs

/-- The number spelled by digits in a base with an optional plus sign. -/
def plusDigits? (base : Nat) : List Char → Option Nat
  | '+' :: cs => digits? base cs
  | cs => digits? base cs

/-- The character of a code point, if it is one. -/
def scalar? (n : Nat) : Option Char :=
  if n.isValidChar then some (Char.ofNat n) else none

/-! ## Escapes -/

/-- The character a one-letter escape stands for. -/
def controlEscape? : Char → Option Char
  | 'a' => some '\x07'
  | 'b' => some '\x08'
  | 'v' => some '\x0b'
  | 'f' => some '\x0c'
  | 'n' => some '\n'
  | 'r' => some '\r'
  | 't' => some '\t'
  | '\\' => some '\\'
  | '?' => some '?'
  | '\x60' => some '\x60'
  | _ => none

/-- The first digit of an octal escape, which has three digits and stays below `256`. -/
def isOctalLead (c : Char) : Bool :=
  c == '0' || c == '1' || c == '2' || c == '3'

/-- The text of a string literal between `quote`s.  A backslash before the other kind of quote is
kept. -/
def unescape? (quote : Char) : List Char → Option (List Char)
  | [] => some []
  | '\\' :: 'x' :: a :: b :: rest => do
    let c ← scalar? (← plusDigits? 16 [a, b])
    return c :: (← unescape? quote rest)
  | '\\' :: 'u' :: a :: b :: c :: d :: rest => do
    let c ← scalar? (← plusDigits? 16 [a, b, c, d])
    return c :: (← unescape? quote rest)
  | '\\' :: 'U' :: a :: b :: c :: d :: e :: f :: g :: h :: rest => do
    let c ← scalar? (← plusDigits? 16 [a, b, c, d, e, f, g, h])
    return c :: (← unescape? quote rest)
  | '\\' :: e :: rest =>
    if isOctalLead e then
      match rest with
      | a :: b :: rest => do
        let c ← scalar? (← digits? 8 [e, a, b])
        return c :: (← unescape? quote rest)
      | _ => none
    else if e = '"' ∨ e = '\x27' then do
      let kept ← unescape? quote rest
      return if e = quote then e :: kept else '\\' :: e :: kept
    else do
      let c ← controlEscape? e
      return c :: (← unescape? quote rest)
  | c :: rest => if c = '\\' then none else do return c :: (← unescape? quote rest)

/-- The text of a raw string literal between `quote`s: a backslash is dropped before the quote and
kept, with the character after it, everywhere else. -/
def unescapeRaw (quote : Char) : List Char → List Char
  | '\\' :: c :: rest =>
    if c = quote then c :: unescapeRaw quote rest else '\\' :: c :: unescapeRaw quote rest
  | c :: rest => c :: unescapeRaw quote rest
  | [] => []

/-- The bytes of a byte string literal: escaped bytes, and the UTF-8 form of everything else. -/
def unescapeBytes? : List Char → Option (List UInt8)
  | [] => some []
  | '\\' :: e :: a :: b :: rest => do
    let n ← if e = 'x' then plusDigits? 16 [a, b]
      else if isOctalLead e then digits? 8 [e, a, b]
      else none
    return UInt8.ofNat n :: (← unescapeBytes? rest)
  | c :: rest =>
    if c = '\\' then none else do return String.utf8EncodeChar c ++ (← unescapeBytes? rest)

/-! ## The value of a literal -/

/-- The value of a literal, if it has one. -/
def Literal.atom? : Literal → Option Atom
  | .null => some .null
  | .bool b => some (.bool b)
  | .int negative base digits => do
    let n ← digits? base digits
    return .int (← Decimal.int64? (if negative then -(n : Int) else n))
  | .uint negative base digits => do
    let n ← digits? base digits
    if negative then none else return .uint (← Decimal.uint64? n)
  | .float numeral => some (.float (Binary64.ofNumeral numeral))
  | .string quote body => (unescape? quote body).map fun cs ↦ .string (String.ofList cs)
  | .rawString quote body => some (.string (String.ofList (unescapeRaw quote body)))
  | .bytes body => (unescapeBytes? body).map .bytes

end WhereClause.Filter
