import WhereClause.Decimal.Integer
import WhereClause.Decimal.Shortest

/-!
# Writing a floating point number

The digits of a number are settled by `Binary64.shortest`; where they stand is the business of a
`Layout`.  Two are in use.  `Layout.sql` writes every number out in full, as an SQL literal.
`Layout.source` is the form numbers have in filter text: very large and very small ones get an
exponent, and a whole number keeps a fraction, so that it is not mistaken for an integer.
-/

set_option autoImplicit false

namespace WhereClause

/-- How the digits of a number are laid out. -/
structure Layout where
  /-- The least and the greatest position of the point that is written without an exponent, or
  `none` if no number has one. -/
  positional : Option (Int × Int)
  /-- Whether a whole number ends in `.0`. -/
  keepsFraction : Bool
deriving DecidableEq

namespace Layout

/-- Every number is written out in full, and whole numbers have no fraction. -/
def sql : Layout := ⟨none, false⟩

/-- Numbers from `0.0001` up to, but excluding, `10 ^ 16` are written out, with a fraction. -/
def source : Layout := ⟨some (-3, 16), true⟩

/-- Digits and point without an exponent. -/
def positionalText (keepsFraction : Bool) (d : DecimalDigits) : List Char :=
  if d.point ≤ 0 then
    '0' :: '.' :: (List.replicate (-d.point).toNat '0' ++ d.digits)
  else if d.digits.length ≤ d.point.toNat then
    d.digits ++ List.replicate (d.point.toNat - d.digits.length) '0' ++
      (if keepsFraction then ['.', '0'] else [])
  else
    d.digits.take d.point.toNat ++ '.' :: d.digits.drop d.point.toNat

/-- One digit, the others after a point, and the power of ten. -/
def exponentText (d : DecimalDigits) : List Char :=
  let mantissa := match d.digits with
    | [] => []
    | [c] => [c]
    | c :: cs => c :: '.' :: cs
  mantissa ++ 'e' :: Decimal.intText (d.point - 1)

/-- The digits of a finite number, laid out. -/
def digitsText (l : Layout) (d : DecimalDigits) : List Char :=
  match l.positional with
  | none => positionalText l.keepsFraction d
  | some (least, greatest) =>
    if d.digits = ['0'] ∨ (least ≤ d.point ∧ d.point ≤ greatest) then
      positionalText l.keepsFraction d
    else exponentText d

end Layout

/-- The text of a number: the words `NaN`, `inf` and `-inf`, or its shortest digits laid out. -/
def Binary64.text (l : Layout) (x : Binary64) : String :=
  if x.isNaN then "NaN"
  else
    let magnitude := if x.isFinite then l.digitsText x.shortest else "inf".toList
    String.ofList (if x.negative then '-' :: magnitude else magnitude)

end WhereClause
