import Mathlib.Data.List.Basic
import WhereClause.Decimal.Layout

/-!
# The characters of number text

What numbers look like when they are written.  `IsNumeric` is the shape shared by all number text in
SQL: digits and points, with at most one minus sign, in front.  Integers have it, and so do floating
point numbers laid out in full, since `shortest` only produces digits.

Integers can also be read back: `readInt?_intText`.
-/

set_option autoImplicit false

namespace WhereClause

namespace Decimal

/-- Digits and points, at least one of them, perhaps after a minus sign. -/
def IsNumeric (cs : List Char) : Prop :=
  ∃ body, body ≠ [] ∧ (∀ c ∈ body, c.isDigit = true ∨ c = '.') ∧ (cs = body ∨ cs = '-' :: body)

theorem isDigit_of_mem_natText {n : Nat} {c : Char} (h : c ∈ natText n) : c.isDigit = true :=
  Nat.isDigit_of_mem_toDigits (by decide) (by decide) h

theorem natText_ne_nil (n : Nat) : natText n ≠ [] :=
  Nat.toDigits_ne_nil

theorem isNumeric_natText (n : Nat) : IsNumeric (natText n) :=
  ⟨natText n, natText_ne_nil n, fun _ hc ↦ .inl (isDigit_of_mem_natText hc), .inl rfl⟩

theorem isNumeric_intText (i : Int) : IsNumeric (intText i) := by
  refine ⟨natText i.natAbs, natText_ne_nil _, fun _ hc ↦ .inl (isDigit_of_mem_natText hc), ?_⟩
  rw [intText]
  split
  · exact .inr rfl
  · exact .inl rfl

/-! ## Integers read back -/

theorem ofDigits_natText (n : Nat) : Numeral.ofDigits (natText n) = n := by
  have hdigits : ∀ (m : Nat) (c : Char), c ∈ natText n →
      10 * m + Numeral.digitValue c = 10 * m + (c.toNat - '0'.toNat) := by
    intro m c hc
    rw [Numeral.digitValue, if_pos (isDigit_of_mem_natText hc)]
  rw [Numeral.ofDigits, List.foldl_ext _ _ 0 hdigits]
  exact Nat.ofDigitChars_ten_toDigits

theorem readNat?_natText (n : Nat) : readNat? (natText n) = some n := by
  have hdigits : (natText n).all Char.isDigit = true :=
    List.all_eq_true.2 fun _ hc ↦ isDigit_of_mem_natText hc
  rw [readNat?, hdigits, ofDigits_natText]
  simp [natText_ne_nil]

/-- **An integer reads back.** -/
theorem readInt?_intText (i : Int) : readInt? (intText i) = some i := by
  rw [intText]
  split
  next hneg =>
    rw [readInt?, readNat?_natText]
    show some (-(i.natAbs : Int)) = some i
    rw [Option.some_inj]
    omega
  next hneg =>
    -- The first character is a digit, so it is taken neither for a minus nor for a plus sign.
    have hfirst : ∀ c cs, natText i.natAbs = c :: cs → c.isDigit = true :=
      fun c cs h ↦ isDigit_of_mem_natText (h ▸ List.mem_cons_self)
    rw [readInt?, readNat?_natText, Option.map_some, Option.some_inj]
    · exact Int.natAbs_of_nonneg (Int.not_lt.1 hneg)
    · exact fun cs h ↦ absurd (hfirst _ cs h) (by decide)
    · exact fun cs h ↦ absurd (hfirst _ cs h) (by decide)

end Decimal

/-! ## Floating point numbers -/

namespace Binary64

theorem isDigit_of_mem_trimmed {d : Nat} {j : Int} {c : Char} (h : c ∈ (trimmed d j).digits) :
    c.isDigit = true := by
  rw [trimmed] at h
  dsimp only at h
  split at h
  next =>
    rw [List.mem_singleton.1 h]
    rfl
  next =>
    have hc : c ∈ Nat.toDigits 10 d :=
      List.mem_reverse.1 ((List.dropWhile_sublist _).mem (List.mem_reverse.1 h))
    exact Decimal.isDigit_of_mem_natText hc

theorem isDigit_of_mem_shortest {x : Binary64} {c : Char} (h : c ∈ x.shortest.digits) :
    c.isDigit = true := by
  rw [shortest] at h
  split at h
  next =>
    rw [List.mem_singleton.1 h]
    rfl
  next => exact isDigit_of_mem_trimmed h

end Binary64

namespace Layout

theorem positionalText_ne_nil (d : DecimalDigits) : positionalText false d ≠ [] := by
  rw [positionalText]
  split
  · simp
  · split
    next hpoint hlength =>
      intro h
      have hzero :
          (d.digits ++ List.replicate (d.point.toNat - d.digits.length) '0' ++ []).length = 0 :=
        congrArg List.length h
      simp only [List.length_append, List.length_replicate, List.length_nil] at hzero
      omega
    · simp

theorem mem_positionalText {d : DecimalDigits} (hd : ∀ c ∈ d.digits, c.isDigit = true) {c : Char}
    (h : c ∈ positionalText false d) : c.isDigit = true ∨ c = '.' := by
  have hzeros : ∀ n, c ∈ List.replicate n '0' → c.isDigit = true := by
    intro n hc
    rw [List.eq_of_mem_replicate hc]
    rfl
  rw [positionalText] at h
  split at h
  · simp only [List.mem_cons, List.mem_append] at h
    rcases h with rfl | rfl | hc | hc
    · exact .inl rfl
    · exact .inr rfl
    · exact .inl (hzeros _ hc)
    · exact .inl (hd c hc)
  · split at h
    · simp only [List.mem_append, Bool.false_eq_true, if_false, List.not_mem_nil, or_false] at h
      rcases h with hc | hc
      · exact .inl (hd c hc)
      · exact .inl (hzeros _ hc)
    · simp only [List.mem_append, List.mem_cons] at h
      rcases h with hc | rfl | hc
      · exact .inl (hd c (List.mem_of_mem_take hc))
      · exact .inr rfl
      · exact .inl (hd c (List.mem_of_mem_drop hc))

end Layout

/-- **A finite number in SQL is numeric.** -/
theorem Binary64.isNumeric_text_sql {x : Binary64} (h : x.isFinite = true) :
    Decimal.IsNumeric (x.text .sql).toList := by
  have hnan : x.isNaN = false := by
    simp only [isFinite, isNaN, decide_eq_true_eq, decide_eq_false_iff_not] at h ⊢
    omega
  refine ⟨Layout.positionalText false x.shortest, Layout.positionalText_ne_nil _,
    fun c hc ↦ Layout.mem_positionalText (fun _ hd ↦ isDigit_of_mem_shortest hd) hc, ?_⟩
  rw [text, hnan, h]
  cases x.negative with
  | true => exact .inr String.toList_ofList
  | false => exact .inl String.toList_ofList

end WhereClause
