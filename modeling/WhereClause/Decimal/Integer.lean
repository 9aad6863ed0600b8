import WhereClause.Decimal.Numeral

/-!
# Integers in decimal

Writing and reading whole numbers, without leading zeros, with a minus sign for the negative ones
only.
-/

set_option autoImplicit false

namespace WhereClause.Decimal

/-- The decimal digits of a natural number. -/
def natText (n : Nat) : List Char :=
  Nat.toDigits 10 n

/-- An integer in decimal. -/
def intText (i : Int) : List Char :=
  if i < 0 then '-' :: natText i.natAbs else natText i.natAbs

/-- Reads a run of decimal digits that is the whole text. -/
def readNat? (cs : List Char) : Option Nat :=
  if !cs.isEmpty && cs.all Char.isDigit then some (Numeral.ofDigits cs) else none

/-- Reads an integer that is the whole text: an optional sign and at least one digit. -/
def readInt? : List Char → Option Int
  | '-' :: cs => (readNat? cs).map fun n ↦ -(n : Int)
  | '+' :: cs => (readNat? cs).map Int.ofNat
  | cs => (readNat? cs).map Int.ofNat

/-- The signed 64-bit integer of a value, if the value fits. -/
def int64? (i : Int) : Option Int64 :=
  if Int64.minValue.toInt ≤ i ∧ i ≤ Int64.maxValue.toInt then some (Int64.ofInt i) else none

/-- The unsigned 64-bit integer of a value, if the value fits. -/
def uint64? (i : Int) : Option UInt64 :=
  if 0 ≤ i ∧ i < UInt64.size then some (UInt64.ofNat i.toNat) else none

theorem toInt_of_int64? {i : Int} {n : Int64} (h : int64? i = some n) : n.toInt = i := by
  unfold int64? at h
  split at h
  next hb =>
    simp only [Option.some.injEq] at h
    subst h
    exact Int64.toInt_ofInt_of_le hb.1 (Int.lt_add_one_of_le hb.2)
  next => simp at h

theorem toNat_of_uint64? {i : Int} {n : UInt64} (h : uint64? i = some n) : (n.toNat : Int) = i := by
  unfold uint64? at h
  split at h
  next hb =>
    simp only [Option.some.injEq] at h
    subst h
    rw [UInt64.toNat_ofNat_of_lt' (by omega)]
    omega
  next => simp at h

theorem int64?_toInt (i : Int64) : int64? i.toInt = some i := by
  rw [int64?, if_pos ⟨Int64.minValue_le_toInt i, Int64.toInt_le i⟩, Int64.ofInt_toInt]

theorem uint64?_toNat (u : UInt64) : uint64? u.toNat = some u := by
  have hsize := u.toNat_lt_size
  rw [uint64?, if_pos ⟨by omega, by omega⟩, Int.toNat_natCast, UInt64.ofNat_toNat]

end WhereClause.Decimal
