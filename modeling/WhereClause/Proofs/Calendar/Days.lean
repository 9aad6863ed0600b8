import Mathlib.Algebra.Ring.Nat
import WhereClause.Calendar.Date

/-!
# Days and dates

A day is a number, and a date is a year, a month and a day of the month.  `Date.ofDay` finds the
date of a day: first the year (`yearOfDay_spec`), and then, in what is left, the month.  **Every day
has a date of the calendar** (`Date.isValid_ofDay`), **and the day of this date is the day itself**
(`Date.toDay_ofDay`).
-/

set_option autoImplicit false

namespace WhereClause.Calendar

/-- The months of a year make up the year. -/
theorem sum_monthLengths (leap : Bool) :
    (monthLengths leap).sum = if leap then 366 else 365 := by
  cases leap <;> rfl

namespace Date

/-- **The month that a day lies in** is the one after those that end before it. -/
theorem findMonth_spec {rest : Nat} (month : Nat) {lengths : List Nat} (h : rest < lengths.sum) :
    ∃ k before length, lengths[k]? = some length ∧ before = (lengths.take k).sum ∧
      before ≤ rest ∧ rest < before + length ∧
      findMonth rest month lengths = (month + k, rest - before + 1) := by
  induction lengths generalizing rest month with
  | nil => simp at h
  | cons length lengths ih =>
    rw [findMonth]
    split
    next hlt => exact ⟨0, 0, length, rfl, rfl, Nat.zero_le _, by omega, rfl⟩
    next hge =>
      rw [List.sum_cons] at h
      obtain ⟨k, before, length', hk, hbefore, hle, hlt, heq⟩ :=
        ih (month + 1) (Nat.sub_lt_left_of_lt_add (Nat.not_lt.1 hge) h)
      refine ⟨k + 1, length + before, length', hk, ?_, by omega, by omega, ?_⟩
      · rw [List.take_succ_cons, List.sum_cons, hbefore]
      · rw [heq]
        congr 1 <;> omega

/-- The day lies in the year, so it lies in one of its months. -/
theorem ofDay_spec (day : Int) :
    ∃ k before length : Nat, (monthLengths (isLeap (yearOfDay day)))[k]? = some length ∧
      before = ((monthLengths (isLeap (yearOfDay day))).take k).sum ∧
      (before : Int) ≤ day - dayOfYear (yearOfDay day) ∧
      day - dayOfYear (yearOfDay day) < before + length ∧
      ofDay day =
        ⟨yearOfDay day, 1 + k, (day - dayOfYear (yearOfDay day)).toNat - before + 1⟩ := by
  obtain ⟨hle, hlt⟩ := yearOfDay_spec day
  rw [dayOfYear_succ] at hlt
  have hrest : (day - dayOfYear (yearOfDay day)).toNat <
      (monthLengths (isLeap (yearOfDay day))).sum := by
    rw [sum_monthLengths]
    split at hlt
    next hleap =>
      rw [if_pos hleap]
      omega
    next hleap =>
      rw [if_neg hleap]
      omega
  obtain ⟨k, before, length, hk, hbefore, hfrom, hto, heq⟩ := findMonth_spec 1 hrest
  refine ⟨k, before, length, hk, hbefore, by omega, by omega, ?_⟩
  rw [ofDay, heq]

theorem le_of_isValid {d : Date} (h : d.isValid = true) : d.month ≤ 12 ∧ d.day ≤ 31 := by
  rw [isValid, decide_eq_true_eq, monthLength] at h
  split at h
  next => omega
  next =>
    cases hlength : (monthLengths (isLeap d.year))[d.month - 1]? with
    | none =>
      rw [hlength, Option.getD_none] at h
      omega
    | some length =>
      have hmax : ∀ n ∈ monthLengths (isLeap d.year), n ≤ 31 := by
        cases isLeap d.year <;> decide
      have hle := hmax length (List.mem_of_getElem? hlength)
      have hmonth : d.month - 1 < 12 := (List.getElem?_eq_some_iff.1 hlength).1
      rw [hlength, Option.getD_some] at h
      omega

/-- **Every day has a date of the calendar.** -/
theorem isValid_ofDay (day : Int) : (ofDay day).isValid = true := by
  obtain ⟨k, before, length, hk, -, hfrom, hto, heq⟩ := ofDay_spec day
  have hlength : (ofDay day).monthLength = length := by
    rw [heq, monthLength, if_neg (by simp), Nat.add_sub_cancel_left, hk, Option.getD_some]
  rw [isValid, hlength, heq]
  simp only [decide_eq_true_eq]
  omega

/-- **The day of the date of a day is the day.** -/
theorem toDay_ofDay (day : Int) : (ofDay day).toDay = day := by
  obtain ⟨k, before, length, -, hbefore, hfrom, -, heq⟩ := ofDay_spec day
  rw [heq, toDay, daysBefore, Nat.add_sub_cancel_left, ← List.sum_eq_foldl, ← hbefore]
  dsimp only
  omega

end Date

end WhereClause.Calendar
