import WhereClause.Decimal.Numeral

/-!
# Floating point numbers

A `Binary64` is a double precision number, held as a sign and a *rank*: the position of its
absolute value among all absolute values in increasing order, starting with zero at rank `0`.
Neighbouring ranks are neighbouring numbers, infinity comes right after the largest finite number,
and the ranks beyond infinity are not numbers.

No operation of the machine is involved.  `significand` and `scale` give the exact value
`± significand · 2 ^ scale` of a finite number, and `ofRatio` rounds a fraction of naturals to the
nearest number, an exact half going to the even neighbour.
-/

set_option autoImplicit false

namespace WhereClause

/-- A double precision floating point number. -/
structure Binary64 where
  /-- Whether the number carries a minus sign; zero carries one or not. -/
  negative : Bool
  /-- The position of the absolute value among all of them, counted from zero. -/
  rank : Fin 0x8000000000000000
deriving DecidableEq

namespace Binary64

/-- The number of ranks that share one power of two. -/
def block : Nat := 0x10000000000000

/-- The rank of infinity. -/
def infinityRank : Nat := 2047 * block

/-- Neither infinite nor undefined. -/
def isFinite (x : Binary64) : Bool :=
  decide (x.rank.val < infinityRank)

/-- Not a number at all. -/
def isNaN (x : Binary64) : Bool :=
  decide (infinityRank < x.rank.val)

/-- The integer `m` in the value `± m · 2 ^ scale` of a finite number. -/
def significand (x : Binary64) : Nat :=
  if x.rank.val < block then x.rank.val else block + x.rank.val % block

/-- The power of two in the value `± significand · 2 ^ scale` of a finite number. -/
def scale (x : Binary64) : Int :=
  if x.rank.val < block then -1074 else (x.rank.val / block : Nat) - 1075

/-- The same number with the other sign. -/
def neg (x : Binary64) : Binary64 :=
  { x with negative := !x.negative }

instance : Neg Binary64 := ⟨neg⟩

@[simp] theorem neg_neg (x : Binary64) : -(-x) = x := by
  cases x
  show neg (neg _) = _
  simp [neg]

/-- The number of a sign and a rank; a rank beyond infinity is taken for infinity. -/
def ofRank (negative : Bool) (rank : Nat) : Binary64 :=
  ⟨negative, ⟨min rank infinityRank, by unfold infinityRank block; omega⟩⟩

/-- Positive or negative infinity. -/
def infinity (negative : Bool) : Binary64 := ofRank negative infinityRank

/-- The undefined number. -/
def nan : Binary64 := ⟨false, ⟨infinityRank + block / 2, by decide⟩⟩

/-! ## Rounding -/

/-- The quotient rounded to the nearest natural number, an exact half to the even one. -/
def roundQuotient (num den : Nat) : Nat :=
  let q := num / den
  let r := num % den
  if 2 * r < den then q
  else if den < 2 * r then q + 1
  else if q % 2 = 0 then q else q + 1

/-- The fraction `num / den` times `2 ^ k`, again as a fraction. -/
def shiftRatio (num den : Nat) (k : Int) : Nat × Nat :=
  (num <<< k.toNat, den <<< (-k).toNat)

/-- The least power of two that makes `num / den = m · 2 ^ q` with `m` below `2 ^ 53`, but never less
than the smallest power a finite number has. -/
def ratioScale (num den : Nat) : Int :=
  let guess : Int := (num.log2 : Int) - (den.log2 : Int) - 52
  let (n, d) := shiftRatio num den (-guess)
  max (-1074) (if n < block * d then guess - 1 else guess)

/-- The number nearest to `± num / den`. -/
def ofRatio (negative : Bool) (num den : Nat) : Binary64 :=
  if num = 0 then ofRank negative 0
  else
    let q := ratioScale num den
    let (n, d) := shiftRatio num den (-q)
    ofRank negative ((q + 1074).toNat * block + roundQuotient n d)

/-- The number nearest to a decimal numeral.  A numeral beyond every finite number, or closer to
zero than every other, is settled by its number of digits, without computing its power of ten. -/
def ofNumeral (n : Numeral) : Binary64 :=
  let magnitude : Int := (Nat.toDigits 10 n.digits).length + n.exponent
  if n.digits = 0 then ofRank n.negative 0
  else if 400 < magnitude then infinity n.negative
  else if magnitude < -400 then ofRank n.negative 0
  else ofRatio n.negative (n.digits * Nat.pow 10 n.exponent.toNat) (Nat.pow 10 (-n.exponent).toNat)

/-- Reads a number: a decimal numeral, or the words for infinity and the undefined number in any
letter case, each with an optional sign. -/
def read? (text : String) : Option Binary64 :=
  let (negative, body) := match text.toList with
    | '-' :: cs => (true, cs)
    | '+' :: cs => (false, cs)
    | cs => (false, cs)
  let word := String.ofList (body.map Char.toLower)
  if word = "inf" ∨ word = "infinity" then some (infinity negative)
  else if word = "nan" then some { nan with negative }
  else (Numeral.readUnsigned? negative body).map ofNumeral

end Binary64

end WhereClause
