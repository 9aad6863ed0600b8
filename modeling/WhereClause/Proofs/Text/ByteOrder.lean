import Mathlib.Tactic.SplitIfs
import WhereClause.Text.Utf8

/-!
# The order of bytes is the order of characters

Names are compared character by character, by code points.  The UTF-8 form of a text is a sequence
of bytes, and bytes have an order of their own.  **The two orders agree** (`utf8_lt_utf8_iff`): the
lead byte of a longer code is greater than that of a shorter one, and codes of the same length are
numbers written with the highest digits first.
-/

set_option autoImplicit false

namespace WhereClause.Text

theorem ofNat_byte_lt_iff {x y : Nat} (hx : x < 256) (hy : y < 256) :
    UInt8.ofNat x < UInt8.ofNat y ↔ x < y := by
  rw [UInt8.lt_iff_toNat_lt, UInt8.toNat_ofNat_of_lt' hx, UInt8.toNat_ofNat_of_lt' hy]

theorem ofNat_byte_inj {x y : Nat} (hx : x < 256) (hy : y < 256) :
    UInt8.ofNat x = UInt8.ofNat y ↔ x = y := by
  rw [← UInt8.toNat_inj, UInt8.toNat_ofNat_of_lt' hx, UInt8.toNat_ofNat_of_lt' hy]

/-- The code of a smaller character is smaller, whatever follows either of them. -/
theorem utf8EncodeChar_append_lt {c d : Char} (h : c < d) (r s : List UInt8) :
    String.utf8EncodeChar c ++ r < String.utf8EncodeChar d ++ s := by
  have hval : c.val.toNat < d.val.toNat := h
  have hmax : d.val.toNat < 1114112 := by
    rcases d.valid with hd | hd <;> omega
  rw [String.utf8EncodeChar, String.utf8EncodeChar]
  generalize c.val.toNat = v at hval
  generalize d.val.toNat = w at hval hmax
  -- The bytes are digits to the base 64, each the last one of what the digit before left over.
  have hsecond : ∀ n : Nat, n / 4096 = n / 64 / 64 := fun n ↦ (Nat.div_div_eq_div_mul n 64 64).symm
  have hthird : ∀ n : Nat, n / 262144 = n / 64 / 64 / 64 := fun n ↦ by
    rw [Nat.div_div_eq_div_mul, Nat.div_div_eq_div_mul]
  simp only [hsecond, hthird]
  split_ifs
  all_goals
    simp only [List.cons_append, List.nil_append, List.cons_lt_cons_iff]
    simp (disch := omega) only [ofNat_byte_lt_iff, ofNat_byte_inj]
    omega

theorem utf8_lt_of_lt {a b : List Char} (h : a < b) : utf8 a < utf8 b := by
  induction a generalizing b with
  | nil =>
    cases b with
    | nil => exact absurd h (List.lt_irrefl [])
    | cons d b =>
      obtain ⟨byte, bytes, hd⟩ := List.exists_cons_of_ne_nil (String.utf8EncodeChar_ne_nil (c := d))
      rw [utf8_cons, hd]
      exact List.nil_lt_cons byte _
  | cons c a ih =>
    cases b with
    | nil => exact absurd h (List.not_lt_nil _)
    | cons d b =>
      rw [utf8_cons, utf8_cons]
      rcases List.cons_lt_cons_iff.1 h with hlt | ⟨rfl, hlt⟩
      · exact utf8EncodeChar_append_lt hlt _ _
      · exact List.append_left_lt (ih hlt)

/-- **Texts are ordered as their bytes are.** -/
theorem utf8_lt_utf8_iff {a b : List Char} : utf8 a < utf8 b ↔ a < b := by
  refine ⟨fun h ↦ Decidable.byContradiction fun hab ↦ ?_, utf8_lt_of_lt⟩
  rcases List.le_iff_lt_or_eq.1 (List.not_lt.1 hab) with hba | rfl
  · exact List.lt_asymm h (utf8_lt_of_lt hba)
  · exact List.lt_irrefl _ h

/-- Different texts have different bytes. -/
theorem utf8_inj {a b : List Char} : utf8 a = utf8 b ↔ a = b := by
  refine ⟨fun h ↦ ?_, congrArg utf8⟩
  have hle : utf8 a ≤ utf8 b ∧ utf8 b ≤ utf8 a := by
    rw [h]
    exact ⟨List.le_refl _, List.le_refl _⟩
  exact List.le_antisymm ((not_congr utf8_lt_utf8_iff).1 hle.1)
    ((not_congr utf8_lt_utf8_iff).1 hle.2)

theorem le_iff_utf8_le {n m : String} : n ≤ m ↔ utf8 n.toList ≤ utf8 m.toList :=
  not_congr utf8_lt_utf8_iff.symm

end WhereClause.Text
