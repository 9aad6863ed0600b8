/-!
# Decimal numerals

A `Numeral` is a number written with decimal digits: a sign, a natural number `digits` and a power
of ten.  `-12.50e3` is `⟨true, 1250, 1⟩`.  Two numerals with the same value need not be equal, since
a numeral remembers how many digits it was written with.

`Numeral.scan` reads the longest numeral at the front of a text, digit by digit;
`Numeral.read?` asks for the whole text.
-/

set_option autoImplicit false

namespace WhereClause

/-- The number `± digits · 10 ^ exponent`. -/
structure Numeral where
  /-- Whether a minus sign stands in front; `-0` and `0` differ. -/
  negative : Bool
  /-- All digits, those after the point included. -/
  digits : Nat
  /-- The power of ten the digits are multiplied by. -/
  exponent : Int
deriving DecidableEq

namespace Numeral

/-- The value of a decimal digit; every other character counts as zero. -/
def digitValue (c : Char) : Nat :=
  if c.isDigit then c.toNat - '0'.toNat else 0

/-- The natural number spelled by a run of decimal digits, most significant first. -/
def ofDigits (cs : List Char) : Nat :=
  cs.foldl (fun n c ↦ 10 * n + digitValue c) 0

/-- The digits at the front of a text. -/
def leading (cs : List Char) : List Char :=
  cs.takeWhile Char.isDigit

/-- What follows the digits at the front of a text. -/
def trailing (cs : List Char) : List Char :=
  cs.dropWhile Char.isDigit

@[simp] theorem leading_append_trailing (cs : List Char) : leading cs ++ trailing cs = cs :=
  List.takeWhile_append_dropWhile

/-- An exponent mark `e` or `E`, an optional sign and at least one digit, with what follows.
Without a digit there is no exponent at all. -/
def scanExponent? : List Char → Option (Int × List Char)
  | mark :: rest =>
    if mark = 'e' ∨ mark = 'E' then
      let (negative, body) := match rest with
        | '-' :: cs => (true, cs)
        | '+' :: cs => (false, cs)
        | cs => (false, cs)
      match leading body with
      | [] => none
      | ds => some (if negative then -(ofDigits ds : Int) else ofDigits ds, trailing body)
    else none
  | [] => none

/-- The numeral made of digits before the point, digits after it and a power of ten. -/
def ofParts (negative : Bool) (whole fraction : List Char) (exponent : Int) : Numeral :=
  ⟨negative, ofDigits (whole ++ fraction), exponent - fraction.length⟩

/-- Reads an unsigned numeral that is the whole text: digits, optionally a point and more digits,
optionally an exponent, and at least one digit before the exponent. -/
def readUnsigned? (negative : Bool) (cs : List Char) : Option Numeral :=
  let whole := leading cs
  let (fraction, rest) := match trailing cs with
    | '.' :: cs => (leading cs, trailing cs)
    | cs => ([], cs)
  if whole.isEmpty && fraction.isEmpty then none
  else match rest with
    | [] => some (ofParts negative whole fraction 0)
    | rest => match scanExponent? rest with
      | some (e, []) => some (ofParts negative whole fraction e)
      | _ => none

/-- Reads a numeral with an optional sign that is the whole text. -/
def read? : List Char → Option Numeral
  | '-' :: cs => readUnsigned? true cs
  | '+' :: cs => readUnsigned? false cs
  | cs => readUnsigned? false cs

end Numeral

end WhereClause
