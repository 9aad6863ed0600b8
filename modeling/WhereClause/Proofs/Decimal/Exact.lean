import Mathlib.Algebra.Order.Field.Power
import Mathlib.Algebra.Order.Field.Rat
import Mathlib.Tactic.FieldSimp
import Mathlib.Tactic.Positivity
import Mathlib.Tactic.Ring
import WhereClause.Binary64

/-!
# Numbers that are read exactly

Rounding goes to the nearest floating point number, so a fraction that *is* one must be left alone.
It is (`Binary64.ofRatio_eq_self`), and since two and five divide ten, every finite number can be
written down with decimal digits, all of them (`Binary64.exactNumeral`).  So **every finite number
is read from some numeral** (`Binary64.ofNumeral_exactNumeral`).

The scale a fraction is rounded at is found by comparing logarithms.  `Binary64.ratioScale_spec`
says what it is without them: the fraction is between `2 ^ 52` and `2 ^ 53` times this power of two,
unless that power is below the least one there is.  No other power has this property, which is why
a number gets its own scale back.
-/

set_option autoImplicit false

namespace WhereClause.Binary64

/-! ## Significand and scale -/

theorem block_eq : block = 2 ^ 52 := by decide

/-- The two kinds of numbers: those at the least scale with a small significand, and the others. -/
theorem small_or_normal (x : Binary64) :
    (x.significand = x.rank ∧ x.scale = -1074 ∧ x.rank < block) ∨
      (x.significand = block + x.rank % block ∧ x.scale = (x.rank / block : Nat) - 1075 ∧
        block ≤ x.rank) := by
  rcases Nat.lt_or_ge x.rank block with h | h
  · exact .inl ⟨if_pos h, if_pos h, h⟩
  · exact .inr ⟨if_neg (Nat.not_lt.2 h), if_neg (Nat.not_lt.2 h), h⟩

theorem significand_lt (x : Binary64) : x.significand < 2 ^ 53 := by
  have hblock := block_eq
  rcases x.small_or_normal with ⟨hm, -, hrank⟩ | ⟨hm, -, hrank⟩
  · omega
  · have := Nat.mod_lt x.rank.val (show 0 < block by decide)
    omega

/-- Only at the least scale is the significand small. -/
theorem le_significand_or (x : Binary64) : 2 ^ 52 ≤ x.significand ∨ x.scale = -1074 := by
  rcases x.small_or_normal with ⟨-, hscale, -⟩ | ⟨hm, -, -⟩
  · exact .inr hscale
  · exact .inl (by rw [hm, block_eq]; omega)

/-- Scale and significand give back the rank. -/
theorem rank_eq (x : Binary64) :
    (x.scale + 1074).toNat * block + x.significand = x.rank := by
  rcases x.small_or_normal with ⟨hm, hscale, -⟩ | ⟨hm, hscale, hrank⟩
  · rw [hm, hscale]
    exact Nat.zero_add _
  · have hpos : 1 ≤ x.rank.val / block := (Nat.one_le_div_iff (by decide)).2 hrank
    have hscale' : (x.scale + 1074).toNat = x.rank / block - 1 := by omega
    rw [hscale', hm, ← Nat.add_assoc, ← Nat.add_one_mul, Nat.sub_add_cancel hpos, Nat.mul_comm]
    exact Nat.div_add_mod _ _

theorem le_scale (x : Binary64) : -1074 ≤ x.scale := by
  rcases x.small_or_normal with ⟨-, hscale, -⟩ | ⟨-, hscale, hrank⟩
  · omega
  · have hpos : 1 ≤ x.rank.val / block := (Nat.one_le_div_iff (by decide)).2 hrank
    omega

theorem scale_le {x : Binary64} (hx : x.isFinite = true) : x.scale ≤ 971 := by
  have hrank : x.rank.val < 2047 * block := of_decide_eq_true hx
  have hlt : x.rank.val / block < 2047 := Nat.div_lt_of_lt_mul (by rwa [Nat.mul_comm])
  rcases x.small_or_normal with ⟨-, hscale, -⟩ | ⟨-, hscale, -⟩ <;> omega

theorem ofRank_rank {x : Binary64} (hx : x.isFinite = true) : ofRank x.negative x.rank = x := by
  have hle : x.rank.val ≤ infinityRank := Nat.le_of_lt (of_decide_eq_true hx)
  cases x
  simp [ofRank, Nat.min_eq_left hle]

/-- Only zero has significand zero. -/
theorem ofRank_zero {x : Binary64} (hx : x.isFinite = true) (h : x.significand = 0) :
    ofRank x.negative 0 = x := by
  have hrank := x.rank_eq
  have hleast : x.scale = -1074 := x.le_significand_or.resolve_left (by omega)
  rw [h, hleast, show (-1074 + 1074 : Int).toNat = 0 from rfl, Nat.zero_mul] at hrank
  have hself := ofRank_rank hx
  rwa [← hrank] at hself

/-! ## Rounding leaves alone what is exact -/

theorem roundQuotient_mul (m : Nat) {d : Nat} (hd : 0 < d) : roundQuotient (m * d) d = m := by
  simp [roundQuotient, Nat.mul_div_cancel m hd, hd]

theorem shiftRatio_snd_pos (num : Nat) {den : Nat} (hden : den ≠ 0) (k : Int) :
    0 < (shiftRatio num den k).2 := by
  show 0 < den <<< (-k).toNat
  rw [Nat.shiftLeft_eq]
  exact Nat.mul_pos (Nat.pos_of_ne_zero hden) (Nat.two_pow_pos _)

/-- Shifting multiplies by a power of two. -/
theorem shiftRatio_div (num den : Nat) (k : Int) :
    ((shiftRatio num den k).1 : ℚ) / (shiftRatio num den k).2 = num / den * 2 ^ k := by
  simp only [shiftRatio, Nat.shiftLeft_eq, Nat.cast_mul, Nat.cast_pow, Nat.cast_ofNat]
  obtain ⟨n, rfl | rfl⟩ := k.eq_nat_or_neg
  · simp only [Int.toNat_natCast, Int.toNat_neg_natCast, pow_zero, mul_one, zpow_natCast]
    ring
  · simp only [Int.toNat_natCast, Int.toNat_neg_natCast, Int.neg_neg, pow_zero, mul_one, zpow_neg,
      zpow_natCast]
    field_simp

/-- Comparing a shifted fraction with `2 ^ 52` is comparing the fraction with a power of two. -/
theorem shiftRatio_lt_iff (num : Nat) {den : Nat} (hden : den ≠ 0) (k : Int) :
    (shiftRatio num den (-k)).1 < block * (shiftRatio num den (-k)).2 ↔
      (num : ℚ) / den < 2 ^ (k + 52) := by
  have hpos : (0 : ℚ) < (shiftRatio num den (-k)).2 :=
    Nat.cast_pos.2 (shiftRatio_snd_pos num hden (-k))
  rw [← Nat.cast_lt (α := ℚ), Nat.cast_mul, ← div_lt_iff₀ hpos, shiftRatio_div, zpow_neg,
    ← div_eq_mul_inv, div_lt_iff₀ (by positivity), block_eq, zpow_add₀ two_ne_zero, mul_comm]
  norm_cast

/-- A natural number is between two powers of two. -/
theorem log2_bounds {n : Nat} (hn : n ≠ 0) :
    (2 : ℚ) ^ (n.log2 : ℤ) ≤ n ∧ (n : ℚ) < 2 ^ ((n.log2 : ℤ) + 1) := by
  constructor
  · rw [zpow_natCast]
    exact_mod_cast Nat.log2_self_le hn
  · rw [← Nat.cast_succ, zpow_natCast]
    exact_mod_cast Nat.lt_log2_self

/-- A fraction is between two powers of two that the logarithms give. -/
theorem log2_div_bounds {num den : Nat} (hnum : num ≠ 0) (hden : den ≠ 0) :
    (2 : ℚ) ^ ((num.log2 : ℤ) - den.log2 - 1) ≤ num / den ∧
      (num : ℚ) / den < 2 ^ ((num.log2 : ℤ) - den.log2 + 1) := by
  have hd : (0 : ℚ) < den := by positivity
  constructor
  · rw [le_div_iff₀ hd]
    calc (2 : ℚ) ^ ((num.log2 : ℤ) - den.log2 - 1) * den
        ≤ 2 ^ ((num.log2 : ℤ) - den.log2 - 1) * 2 ^ ((den.log2 : ℤ) + 1) := by
          gcongr
          exact (log2_bounds hden).2.le
      _ = 2 ^ (num.log2 : ℤ) := by
          rw [← zpow_add₀ two_ne_zero]
          congr 1
          omega
      _ ≤ num := (log2_bounds hnum).1
  · rw [div_lt_iff₀ hd]
    calc (num : ℚ) < 2 ^ ((num.log2 : ℤ) + 1) := (log2_bounds hnum).2
      _ = 2 ^ ((num.log2 : ℤ) - den.log2 + 1) * 2 ^ (den.log2 : ℤ) := by
          rw [← zpow_add₀ two_ne_zero]
          congr 1
          omega
      _ ≤ 2 ^ ((num.log2 : ℤ) - den.log2 + 1) * den := by
          gcongr
          exact (log2_bounds hden).1

/-- **The scale of a fraction**: the power of two that puts it between `2 ^ 52` and `2 ^ 53`, if it
is not too small. -/
theorem ratioScale_spec {num den : Nat} (hnum : num ≠ 0) (hden : den ≠ 0) :
    ∃ s : ℤ, ratioScale num den = max (-1074) s ∧
      (2 : ℚ) ^ (s + 52) ≤ num / den ∧ (num : ℚ) / den < 2 ^ (s + 53) := by
  obtain ⟨hlow, hhigh⟩ := log2_div_bounds hnum hden
  have hscale : ratioScale num den = max (-1074)
      (if (shiftRatio num den (-((num.log2 : ℤ) - den.log2 - 52))).1 <
          block * (shiftRatio num den (-((num.log2 : ℤ) - den.log2 - 52))).2
        then (num.log2 : ℤ) - den.log2 - 52 - 1 else (num.log2 : ℤ) - den.log2 - 52) := rfl
  have hcompare := shiftRatio_lt_iff num hden ((num.log2 : ℤ) - den.log2 - 52)
  rw [hscale]
  -- the logarithms are off by at most one, and the comparison says which way
  split
  next hlt =>
    refine ⟨_, rfl, ?_, ?_⟩
    · convert hlow using 2
      ring
    · convert hcompare.1 hlt using 2
      ring
  next hge =>
    refine ⟨_, rfl, ?_, ?_⟩
    · exact not_lt.1 fun h ↦ hge (hcompare.2 h)
    · convert hhigh using 2
      ring

/-- A number that is a fraction has the scale of this fraction. -/
theorem ratioScale_eq {x : Binary64} {num den : Nat} (hnum : num ≠ 0) (hden : den ≠ 0)
    (h : (num : ℚ) / den = x.significand * 2 ^ x.scale) : ratioScale num den = x.scale := by
  obtain ⟨s, hs, hlow, hhigh⟩ := ratioScale_spec hnum hden
  have hupper : (num : ℚ) / den < 2 ^ (x.scale + 53) := by
    have hlt : (x.significand : ℚ) < 2 ^ 53 := mod_cast x.significand_lt
    rw [h, zpow_add₀ two_ne_zero, mul_comm]
    exact mul_lt_mul_of_pos_left (mod_cast hlt) (by positivity)
  have hle : s ≤ x.scale := by
    have := (zpow_lt_zpow_iff_right₀ one_lt_two).1 (hlow.trans_lt hupper)
    omega
  rw [hs]
  rcases x.le_significand_or with hlarge | hleast
  · have hlower : (2 : ℚ) ^ (x.scale + 52) ≤ num / den := by
      have hge : (2 : ℚ) ^ 52 ≤ x.significand := mod_cast hlarge
      rw [h, zpow_add₀ two_ne_zero, mul_comm]
      exact mul_le_mul_of_nonneg_right (mod_cast hge) (by positivity)
    have hlt := (zpow_lt_zpow_iff_right₀ one_lt_two).1 (hlower.trans_lt hhigh)
    have hleast := x.le_scale
    omega
  · omega

/-- **A fraction that is a floating point number is rounded to this number.** -/
theorem ofRatio_eq_self {x : Binary64} (hx : x.isFinite = true) {num den : Nat} (hden : den ≠ 0)
    (h : (num : ℚ) / den = x.significand * 2 ^ x.scale) : ofRatio x.negative num den = x := by
  by_cases hnum : num = 0
  · have hprod : (x.significand : ℚ) * 2 ^ x.scale = 0 := by rw [← h, hnum, Nat.cast_zero, zero_div]
    have hpow : (2 : ℚ) ^ x.scale ≠ 0 := by positivity
    rw [ofRatio, if_pos hnum]
    exact ofRank_zero hx (mod_cast (mul_eq_zero.1 hprod).resolve_right hpow)
  · have hscale := ratioScale_eq hnum hden h
    have hpos := shiftRatio_snd_pos num hden (-x.scale)
    have hquotient : (shiftRatio num den (-x.scale)).1 =
        x.significand * (shiftRatio num den (-x.scale)).2 := by
      have hdiv := shiftRatio_div num den (-x.scale)
      rw [h, mul_assoc, ← zpow_add₀ two_ne_zero, Int.add_right_neg, zpow_zero, mul_one,
        div_eq_iff (by positivity)] at hdiv
      exact_mod_cast hdiv
    have hround : roundQuotient (shiftRatio num den (-x.scale)).1
        (shiftRatio num den (-x.scale)).2 = x.significand := by
      rw [hquotient, roundQuotient_mul _ hpos]
    rw [ofRatio, if_neg hnum]
    show ofRank x.negative ((ratioScale num den + 1074).toNat * block +
      roundQuotient (shiftRatio num den (-ratioScale num den)).1
        (shiftRatio num den (-ratioScale num den)).2) = x
    rw [hscale, hround, x.rank_eq, ofRank_rank hx]

/-! ## All decimal digits of a number -/

/-- A finite number with all its decimal digits.  Below one a power of two in the denominator is a
power of ten there and a power of five among the digits. -/
def exactNumeral (x : Binary64) : Numeral where
  negative := x.negative
  digits := x.significand * 2 ^ x.scale.toNat * 5 ^ (-x.scale).toNat
  exponent := -(-x.scale).toNat

/-- As a fraction the numeral is the number. -/
theorem exactNumeral_ratio (x : Binary64) :
    ((x.exactNumeral.digits : ℕ) : ℚ) / ((10 ^ (-x.scale).toNat : ℕ) : ℚ) =
      x.significand * 2 ^ x.scale := by
  have hten : (10 : ℚ) ^ (-x.scale).toNat = 2 ^ (-x.scale).toNat * 5 ^ (-x.scale).toNat := by
    rw [← mul_pow]
    norm_num
  have htwo : (2 : ℚ) ^ x.scale = 2 ^ x.scale.toNat / 2 ^ (-x.scale).toNat := by
    rw [← zpow_natCast, ← zpow_natCast, ← zpow_sub₀ two_ne_zero]
    congr 1
    omega
  rw [exactNumeral, htwo]
  push_cast
  rw [hten]
  field_simp

theorem two_pow_le_pow {k base : Nat} (hbase : 2 ^ k ≤ base) {a n : Nat} (h : a ≤ k * n) :
    2 ^ a ≤ base ^ n :=
  calc 2 ^ a ≤ 2 ^ (k * n) := Nat.pow_le_pow_right (by decide) h
    _ = (2 ^ k) ^ n := Nat.pow_mul 2 k n
    _ ≤ base ^ n := Nat.pow_le_pow_left hbase n

/-- A finite number does not have too many digits in front of the point. -/
theorem exactNumeral_digits_lt {x : Binary64} (hx : x.isFinite = true) :
    x.exactNumeral.digits < 10 ^ (400 + (-x.scale).toNat) := by
  have hfront : x.significand * 2 ^ x.scale.toNat < 10 ^ 400 := by
    have hscale : x.scale.toNat ≤ 971 := by
      have := scale_le hx
      omega
    calc x.significand * 2 ^ x.scale.toNat < 2 ^ 53 * 2 ^ x.scale.toNat :=
          Nat.mul_lt_mul_of_pos_right x.significand_lt (Nat.two_pow_pos _)
      _ = 2 ^ (53 + x.scale.toNat) := (Nat.pow_add ..).symm
      _ ≤ 10 ^ 400 := two_pow_le_pow (show 2 ^ 3 ≤ 10 by decide) (by omega)
  calc x.exactNumeral.digits < 10 ^ 400 * 5 ^ (-x.scale).toNat :=
        Nat.mul_lt_mul_of_pos_right hfront (by positivity)
    _ ≤ 10 ^ 400 * 10 ^ (-x.scale).toNat :=
        Nat.mul_le_mul_left _ (Nat.pow_le_pow_left (by decide) _)
    _ = 10 ^ (400 + (-x.scale).toNat) := (pow_add 10 400 _).symm

/-- Nor is it too close to zero, if it is not zero. -/
theorem le_exactNumeral_digits {x : Binary64} (h : x.exactNumeral.digits ≠ 0) :
    10 ^ ((-x.scale).toNat - 401) ≤ x.exactNumeral.digits := by
  have hscale : (-x.scale).toNat ≤ 1074 := by
    have := x.le_scale
    omega
  have hfront : 1 ≤ x.significand * 2 ^ x.scale.toNat :=
    Nat.pos_of_ne_zero fun hzero ↦ h (by rw [exactNumeral, hzero, Nat.zero_mul])
  have hfive : 10 ^ ((-x.scale).toNat - 401) ≤ 5 ^ (-x.scale).toNat := by
    rcases Nat.le_total (-x.scale).toNat 401 with hsmall | hlarge
    · rw [Nat.sub_eq_zero_of_le hsmall]
      exact Nat.one_le_pow _ _ (by decide)
    · obtain ⟨k, hk⟩ := Nat.exists_eq_add_of_le hlarge
      rw [hk, Nat.add_sub_cancel_left]
      have htwo : 2 ^ k ≤ 5 ^ 401 := two_pow_le_pow (show 2 ^ 2 ≤ 5 by decide) (by omega)
      calc 10 ^ k = 2 ^ k * 5 ^ k := Nat.mul_pow 2 5 k
        _ ≤ 5 ^ 401 * 5 ^ k := Nat.mul_le_mul_right _ htwo
        _ = 5 ^ (401 + k) := (pow_add 5 401 k).symm
  calc 10 ^ ((-x.scale).toNat - 401) ≤ 5 ^ (-x.scale).toNat := hfive
    _ ≤ x.exactNumeral.digits := Nat.le_mul_of_pos_left _ hfront

/-- **Every finite number is read from some numeral.** -/
theorem ofNumeral_exactNumeral {x : Binary64} (hx : x.isFinite = true) :
    ofNumeral x.exactNumeral = x := by
  have hlength : ∀ k, 0 < k → ((Nat.toDigits 10 x.exactNumeral.digits).length ≤ k ↔
      x.exactNumeral.digits < 10 ^ k) :=
    fun k hk ↦ Nat.length_toDigits_le_iff (by decide) hk
  have hexponent : x.exactNumeral.exponent = -((-x.scale).toNat : ℤ) := rfl
  rw [ofNumeral]
  by_cases hzero : x.exactNumeral.digits = 0
  · rw [if_pos hzero]
    refine ofRank_zero hx ?_
    simpa [exactNumeral] using hzero
  · have hnotLarge : ¬ 400 < ((Nat.toDigits 10 x.exactNumeral.digits).length : ℤ) +
        x.exactNumeral.exponent := by
      have := (hlength _ (by omega)).2 (exactNumeral_digits_lt hx)
      omega
    have hnotSmall : ¬ ((Nat.toDigits 10 x.exactNumeral.digits).length : ℤ) +
        x.exactNumeral.exponent < -400 := by
      intro hsmall
      have hpos : 0 < (Nat.toDigits 10 x.exactNumeral.digits).length := Nat.length_toDigits_pos
      have hlt := (hlength ((-x.scale).toNat - 401) (by omega)).1 (by omega)
      exact absurd (le_exactNumeral_digits hzero) (Nat.not_le.2 hlt)
    have hup : x.exactNumeral.exponent.toNat = 0 := Int.toNat_neg_natCast _
    have hdown : (-x.exactNumeral.exponent).toNat = (-x.scale).toNat := by
      rw [hexponent, Int.neg_neg, Int.toNat_natCast]
    rw [if_neg hzero, if_neg hnotLarge, if_neg hnotSmall, hup, hdown]
    show ofRatio x.negative (x.exactNumeral.digits * 10 ^ 0) (10 ^ (-x.scale).toNat) = x
    rw [Nat.pow_zero, Nat.mul_one]
    exact ofRatio_eq_self hx (by positivity) x.exactNumeral_ratio

end WhereClause.Binary64
