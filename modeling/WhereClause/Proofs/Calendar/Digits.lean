import Mathlib.Algebra.Ring.Nat
import WhereClause.Calendar.Format
import WhereClause.Calendar.Timestamp
import WhereClause.Proofs.Decimal.Text
import WhereClause.Proofs.Text.ByteOrder

/-!
# Digits in bytes

A timestamp is read from its bytes, and most of them are digits in groups of a fixed width.  The
writer of times has such groups as well: `zeroPadded` fills a number up with zeros.  **The two
agree** (`number_eq_ok_iff`): some bytes are read as a number exactly if they are those of the
number filled up to their width.  One direction is that digits give back the number they were made
from, and the other that digits are known from how many they are and what they are worth
(`eq_of_ofDigitChars_eq`).
-/

set_option autoImplicit false

namespace WhereClause.Calendar

open Decimal (natText)
open Numeral (ofDigits)
open Text

/-! ## Digits -/

theorem isDigit_iff {b : UInt8} : isDigit b = true ↔ 48 ≤ b.toNat ∧ b.toNat ≤ 57 := by
  rw [isDigit, Bool.and_eq_true, decide_eq_true_eq, decide_eq_true_eq, UInt8.le_iff_toNat_le,
    UInt8.le_iff_toNat_le]
  exact Iff.rfl

theorem toNat_ascii_of_isDigit {c : Char} (h : c.isDigit = true) :
    (ascii c).toNat = c.toNat ∧ 48 ≤ c.toNat ∧ c.toNat ≤ 57 := by
  have hrange : 48 ≤ c.toNat ∧ c.toNat ≤ 57 := Char.isDigit_iff_toNat.1 h
  exact ⟨toNat_ascii (by omega), hrange⟩

/-- Digits are single bytes. -/
theorem utf8_digits {cs : List Char} (h : ∀ c ∈ cs, c.isDigit = true) : utf8 cs = cs.map ascii := by
  induction cs with
  | nil => rfl
  | cons c cs ih =>
    rw [List.forall_mem_cons] at h
    obtain ⟨-, hrange⟩ := toNat_ascii_of_isDigit h.1
    rw [utf8_cons, utf8EncodeChar_eq (by omega), ih h.2]
    rfl

/-- Every digit among the bytes is one among the characters. -/
theorem exists_digits {bs : List UInt8} (h : ∀ b ∈ bs, isDigit b = true) :
    ∃ cs : List Char, (∀ c ∈ cs, c.isDigit = true) ∧ utf8 cs = bs := by
  have hchar : ∀ b ∈ bs, (Char.ofUInt8 b).isDigit = true := by
    intro b hb
    have hnat : (Char.ofUInt8 b).toNat = b.toNat := UInt8.toNat_toUInt32 b
    rw [Char.isDigit_iff_toNat, hnat]
    exact isDigit_iff.1 (h b hb)
  have hdigits : ∀ c ∈ bs.map Char.ofUInt8, c.isDigit = true := by
    simpa using hchar
  refine ⟨bs.map Char.ofUInt8, hdigits, ?_⟩
  rw [utf8_digits hdigits, List.map_map]
  exact List.map_id'' UInt8.toUInt8_toUInt32 bs

theorem isDigit_of_mem_utf8 {cs : List Char} (h : ∀ c ∈ cs, c.isDigit = true) :
    ∀ b ∈ utf8 cs, isDigit b = true := by
  intro b hb
  rw [utf8_digits h, List.mem_map] at hb
  obtain ⟨c, hc, rfl⟩ := hb
  obtain ⟨hnat, hrange⟩ := toNat_ascii_of_isDigit (h c hc)
  exact isDigit_iff.2 (hnat ▸ hrange)

/-- **The number of a run of digits.** -/
theorem number_utf8 {cs : List Char} (h : ∀ c ∈ cs, c.isDigit = true) :
    number (utf8 cs) = .ok (ofDigits cs) := by
  rw [number, if_pos (List.all_eq_true.2 (isDigit_of_mem_utf8 h)), utf8_digits h, List.foldl_map,
    ofDigits]
  congr 1
  refine List.foldl_ext _ _ 0 fun n c hc ↦ ?_
  obtain ⟨hnat, hrange⟩ := toNat_ascii_of_isDigit (h c hc)
  have hzero : ascii '0' ≤ ascii c := by
    rw [UInt8.le_iff_toNat_le, hnat]
    exact hrange.1
  rw [UInt8.toNat_sub_of_le _ _ hzero, hnat, Numeral.digitValue, if_pos (h c hc)]
  rfl

theorem exists_digits_of_number {bs : List UInt8} {n : Nat} (h : number bs = .ok n) :
    ∃ cs : List Char, (∀ c ∈ cs, c.isDigit = true) ∧ utf8 cs = bs ∧ ofDigits cs = n := by
  rw [number] at h
  split at h
  next hall =>
    obtain ⟨cs, hcs, rfl⟩ := exists_digits (List.all_eq_true.1 hall)
    have hnumber := number_utf8 hcs
    rw [number, if_pos hall, h] at hnumber
    exact ⟨cs, hcs, rfl, (Except.ok.inj hnumber).symm⟩
  next => cases h

/-! ## Numbers of a fixed width -/

theorem zeroPadded_eq (width n : Nat) :
    zeroPadded width n = List.replicate (width - (natText n).length) '0' ++ natText n := by
  have hsign : ¬ (n : Int) < 0 := Int.not_lt.2 (Int.natCast_nonneg n)
  simp [zeroPadded, padded, hsign]

theorem isDigit_of_mem_zeroPadded {width n : Nat} {c : Char} (h : c ∈ zeroPadded width n) :
    c.isDigit = true := by
  rw [zeroPadded_eq, List.mem_append] at h
  rcases h with hzero | hdigit
  · rw [List.eq_of_mem_replicate hzero]
    rfl
  · exact Decimal.isDigit_of_mem_natText hdigit

theorem length_zeroPadded {width n : Nat} (hwidth : 0 < width) (h : n < 10 ^ width) :
    (zeroPadded width n).length = width := by
  have hlength : (natText n).length ≤ width :=
    (Nat.length_toDigits_le_iff (by decide) hwidth).2 h
  rw [zeroPadded_eq, List.length_append, List.length_replicate]
  omega

theorem ofDigits_eq {cs : List Char} (h : ∀ c ∈ cs, c.isDigit = true) :
    ofDigits cs = Nat.ofDigitChars 10 cs 0 := by
  rw [ofDigits, Nat.ofDigitChars_eq_foldl]
  refine List.foldl_ext _ _ 0 fun n c hc ↦ ?_
  rw [Numeral.digitValue, if_pos (h c hc)]

theorem ofDigits_zeroPadded (width n : Nat) : ofDigits (zeroPadded width n) = n := by
  rw [ofDigits_eq fun c ↦ isDigit_of_mem_zeroPadded, zeroPadded_eq, Nat.ofDigitChars_append,
    Nat.ofDigitChars_replicate_zero, Nat.mul_zero]
  exact Nat.ofDigitChars_ten_toDigits

theorem ofDigitChars_lt {cs : List Char} (h : ∀ c ∈ cs, c.isDigit = true) :
    Nat.ofDigitChars 10 cs 0 < 10 ^ cs.length := by
  induction cs with
  | nil => simp
  | cons c cs ih =>
    rw [List.forall_mem_cons] at h
    have hrange : 48 ≤ c.toNat ∧ c.toNat ≤ 57 := Char.isDigit_iff_toNat.1 h.1
    have hlt := ih h.2
    have hdigit : c.toNat - '0'.toNat ≤ 9 := Nat.sub_le_of_le_add hrange.2
    have hmul := Nat.mul_le_mul_left (10 ^ cs.length) hdigit
    rw [Nat.ofDigitChars_cons, Nat.ofDigitChars_eq_ofDigitChars_zero, List.length_cons,
      Nat.pow_succ, Nat.mul_zero, Nat.zero_add]
    omega

/-- Digits are known from how many they are and what they are worth. -/
theorem eq_of_ofDigitChars_eq {cs ds : List Char} (hcs : ∀ c ∈ cs, c.isDigit = true)
    (hds : ∀ c ∈ ds, c.isDigit = true) (hlength : cs.length = ds.length) {a b : Nat}
    (h : Nat.ofDigitChars 10 cs a = Nat.ofDigitChars 10 ds b) : a = b ∧ cs = ds := by
  induction cs generalizing ds a b with
  | nil =>
    obtain rfl := List.eq_nil_of_length_eq_zero hlength.symm
    exact ⟨h, rfl⟩
  | cons c cs ih =>
    cases ds with
    | nil => cases hlength
    | cons d ds =>
      rw [List.forall_mem_cons] at hcs hds
      rw [Nat.ofDigitChars_cons, Nat.ofDigitChars_cons] at h
      -- What was read before counts ten times as much as the digit, which is less than ten.
      obtain ⟨hfirst, rfl⟩ := ih hcs.2 hds.2 (Nat.succ.inj hlength) h
      have hc : 48 ≤ c.toNat ∧ c.toNat ≤ 57 := Char.isDigit_iff_toNat.1 hcs.1
      have hd : 48 ≤ d.toNat ∧ d.toNat ≤ 57 := Char.isDigit_iff_toNat.1 hds.1
      have hzero : '0'.toNat = 48 := rfl
      have heq : c = d := Char.toNat_inj.1 (by omega)
      exact ⟨by omega, heq ▸ rfl⟩

theorem number_zeroPadded (width n : Nat) : number (utf8 (zeroPadded width n)) = .ok n := by
  rw [number_utf8 fun c ↦ isDigit_of_mem_zeroPadded, ofDigits_zeroPadded]

theorem length_utf8_zeroPadded {width n : Nat} (hwidth : 0 < width) (h : n < 10 ^ width) :
    (utf8 (zeroPadded width n)).length = width := by
  rw [utf8_digits fun c ↦ isDigit_of_mem_zeroPadded, List.length_map, length_zeroPadded hwidth h]

theorem exists_two_digits {n : Nat} (h : n < 100) : ∃ a b, utf8 (zeroPadded 2 n) = [a, b] :=
  List.length_eq_two.1 (length_utf8_zeroPadded (by decide) h)

/-- **Bytes spell a number if they are its digits**, with zeros in front to fill the width. -/
theorem number_eq_ok_iff {bs : List UInt8} {n : Nat} (width : Nat) (hwidth : 0 < width)
    (hlength : bs.length = width) :
    number bs = .ok n ↔ n < 10 ^ width ∧ bs = utf8 (zeroPadded width n) := by
  constructor
  · intro h
    obtain ⟨cs, hcs, rfl, rfl⟩ := exists_digits_of_number h
    rw [utf8_digits hcs, List.length_map] at hlength
    subst hlength
    have hlt : ofDigits cs < 10 ^ cs.length := ofDigits_eq hcs ▸ ofDigitChars_lt hcs
    refine ⟨hlt, congrArg utf8 ?_⟩
    refine (eq_of_ofDigitChars_eq (a := 0) (b := 0) hcs (fun c ↦ isDigit_of_mem_zeroPadded)
      (length_zeroPadded hwidth hlt).symm ?_).2
    rw [← ofDigits_eq hcs, ← ofDigits_eq fun c ↦ isDigit_of_mem_zeroPadded, ofDigits_zeroPadded]
  · rintro ⟨-, rfl⟩
    exact number_zeroPadded width n

theorem number_pair_eq_ok_iff {a b : UInt8} {n : Nat} :
    number [a, b] = .ok n ↔ n < 100 ∧ [a, b] = utf8 (zeroPadded 2 n) :=
  number_eq_ok_iff 2 (by decide) rfl

end WhereClause.Calendar
