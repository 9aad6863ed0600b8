import Mathlib.Tactic.IntervalCases
import WhereClause.Proofs.Calendar.Shifted

/-!
# The grammar of timestamps

RFC 3339 says which texts are timestamps: a date, the letter `T`, a time of day, perhaps a fraction
of a second, and an offset from UTC.  `IsDateTime` puts this down rule by rule.  It speaks of
characters and of the numbers that groups of digits make, and it knows nothing of the reader, which
goes through bytes, nor of the table of months: the length of a month is the rule of the calendar
(`IsGregorian`).

**The texts that can be read are those of the grammar, but with one more sign**
(`Settings.generate_timestamp_verdict`): the offset may start with the typographic minus sign, which
RFC 3339 does not have.  The grammar has the signs for a parameter, so that the two can be compared:
the difference is exactly the texts in which this sign stands.
-/

set_option autoImplicit false

namespace WhereClause

namespace Calendar

open Numeral (ofDigits)
open Text (utf8 utf8_inj)

/-! ## The grammar -/

/-- A number written with a fixed number of digits. -/
structure IsNumber (width n : Nat) (cs : List Char) : Prop where
  length_eq : cs.length = width
  isDigit_of_mem : ∀ c ∈ cs, c.isDigit = true
  ofDigits_eq : ofDigits cs = n

/-- The days of the Gregorian calendar. -/
def IsGregorian (year month day : Nat) : Prop :=
  1 ≤ day ∧ (month ∈ [1, 3, 5, 7, 8, 10, 12] ∧ day ≤ 31 ∨ month ∈ [4, 6, 9, 11] ∧ day ≤ 30 ∨
    month = 2 ∧ (day ≤ 28 ∨ day = 29 ∧ 4 ∣ year ∧ (100 ∣ year → 400 ∣ year)))

/-- The fraction of a second: nothing, or a point and digits. -/
inductive IsFraction : List Char → Prop where
  | none : IsFraction []
  | point {digits : List Char} (ne_nil : digits ≠ [])
      (isDigit_of_mem : ∀ c ∈ digits, c.isDigit = true) : IsFraction ('.' :: digits)

/-- An offset from UTC: a letter, or hours and minutes after a sign. -/
inductive IsOffset (signs : List Char) : List Char → Prop where
  | letter {c : Char} (h : c = 'Z' ∨ c = 'z') : IsOffset signs [c]
  | clock {sign : Char} {hours minutes : List Char} {hour minute : Nat} (hsign : sign ∈ signs)
      (hhour : IsNumber 2 hour hours) (hour_le : hour ≤ 23)
      (hminute : IsNumber 2 minute minutes) (minute_le : minute ≤ 59) :
      IsOffset signs (sign :: (hours ++ ':' :: minutes))

/-- A timestamp, with the signs that an offset may have. -/
inductive IsDateTime (signs : List Char) : List Char → Prop where
  | intro {years months days hours minutes seconds fraction offset : List Char}
      {year month day hour minute second : Nat} {letter : Char}
      (hyear : IsNumber 4 year years) (hmonth : IsNumber 2 month months)
      (hday : IsNumber 2 day days) (hdate : IsGregorian year month day)
      (hletter : letter = 'T' ∨ letter = 't')
      (hhour : IsNumber 2 hour hours) (hour_le : hour ≤ 23)
      (hminute : IsNumber 2 minute minutes) (minute_le : minute ≤ 59)
      (hsecond : IsNumber 2 second seconds) (second_le : second ≤ 60)
      (hfraction : IsFraction fraction) (hoffset : IsOffset signs offset) :
      IsDateTime signs (years ++ '-' :: (months ++ '-' :: (days ++ letter :: (hours ++ ':' ::
        (minutes ++ ':' :: (seconds ++ (fraction ++ offset)))))))

/-- The signs of RFC 3339. -/
def plainSigns : List Char := ['+', '-']

/-- The signs that can be read, with the typographic minus sign. -/
def allSigns : List Char := ['+', '-', '\u2212']

/-! ## Numbers and dates -/

/-- A number written with a fixed number of digits is filled up with zeros. -/
theorem isNumber_iff {width n : Nat} {cs : List Char} (hwidth : 0 < width) :
    IsNumber width n cs ↔ n < 10 ^ width ∧ cs = zeroPadded width n := by
  constructor
  · rintro ⟨hlength, hdigits, rfl⟩
    have hbytes : (utf8 cs).length = width := by
      rw [utf8_digits hdigits, List.length_map, hlength]
    obtain ⟨hlt, heq⟩ := (number_eq_ok_iff width hwidth hbytes).1 (number_utf8 hdigits)
    exact ⟨hlt, utf8_inj.1 heq⟩
  · rintro ⟨hlt, rfl⟩
    exact ⟨length_zeroPadded hwidth hlt, fun c ↦ isDigit_of_mem_zeroPadded,
      ofDigits_zeroPadded width n⟩

theorem isNumber_zeroPadded {width n : Nat} (hwidth : 0 < width) (h : n < 10 ^ width) :
    IsNumber width n (zeroPadded width n) :=
  (isNumber_iff hwidth).2 ⟨h, rfl⟩

theorem IsNumber.eq_zeroPadded {width n : Nat} {cs : List Char} (h : IsNumber width n cs)
    (hwidth : 0 < width) : cs = zeroPadded width n :=
  ((isNumber_iff hwidth).1 h).2

/-- **The table of months follows the rule of the calendar.** -/
theorem isValid_iff_isGregorian {year month day : Nat} :
    (Date.mk year month day).isValid = true ↔ IsGregorian year month day := by
  have hleap : isLeap year = true ↔ 4 ∣ year ∧ (100 ∣ year → 400 ∣ year) := by
    rw [isLeap, decide_eq_true_eq]
    omega
  by_cases hmonth : month ≤ 12
  · rw [Date.isValid, decide_eq_true_eq, Date.monthLength, IsGregorian, ← hleap]
    interval_cases month <;> cases isLeap year <;> simp [monthLengths] <;> omega
  · refine iff_of_false (fun h ↦ hmonth (Date.le_of_isValid h).1) ?_
    simp only [IsGregorian, List.mem_cons, List.not_mem_nil, or_false]
    omega

/-! ## Texts of the grammar and timestamps as they are written -/

theorem isFraction_iff {cs : List Char} :
    IsFraction cs ↔ ∃ digits, (∀ c ∈ digits, c.isDigit = true) ∧ fractionChars digits = cs := by
  constructor
  · rintro (_ | ⟨hne, hdigits⟩)
    · exact ⟨[], by simp, rfl⟩
    · exact ⟨_, hdigits, if_neg hne⟩
  · rintro ⟨digits, hdigits, rfl⟩
    rw [fractionChars]
    split
    next => exact .none
    next hne => exact .point hne hdigits

/-- A letter may be a capital or a small one. -/
theorem exists_capital_iff {a b c : Char} :
    (∃ capital : Bool, (if capital then a else b) = c) ↔ c = a ∨ c = b := by
  rw [Bool.exists_bool, or_comm]
  simp only [if_true, Bool.false_eq_true, if_false, eq_comm]

theorem mem_allSigns_iff {c : Char} : c ∈ allSigns ↔ ∃ sign : OffsetSign, sign.char = c := by
  constructor
  · simp only [allSigns, List.mem_cons, List.not_mem_nil, or_false]
    rintro (rfl | rfl | rfl)
    · exact ⟨.plus, rfl⟩
    · exact ⟨.minus, rfl⟩
    · exact ⟨.longMinus, rfl⟩
  · rintro ⟨sign, rfl⟩
    cases sign <;> decide

theorem isOffset_iff {cs : List Char} :
    IsOffset allSigns cs ↔ ∃ zone : OffsetText, zone.chars = cs := by
  constructor
  · rintro (hletter | ⟨hsign, hhour, hour_le, hminute, minute_le⟩)
    · obtain ⟨capital, rfl⟩ := exists_capital_iff.2 hletter
      exact ⟨.utc capital, rfl⟩
    · obtain ⟨sign, rfl⟩ := mem_allSigns_iff.1 hsign
      rw [hhour.eq_zeroPadded (by decide), hminute.eq_zeroPadded (by decide)]
      exact ⟨.clock sign ⟨_, Nat.lt_succ_of_le hour_le⟩ ⟨_, Nat.lt_succ_of_le minute_le⟩, rfl⟩
  · rintro ⟨capital | ⟨sign, hours, minutes⟩, rfl⟩
    · exact .letter (exists_capital_iff.1 ⟨capital, rfl⟩)
    · exact .clock (mem_allSigns_iff.2 ⟨sign, rfl⟩)
        (isNumber_zeroPadded (by decide) (by omega)) (by omega)
        (isNumber_zeroPadded (by decide) (by omega)) (by omega)

/-- **The grammar describes timestamps as they are written.** -/
theorem isDateTime_iff {cs : List Char} :
    IsDateTime allSigns cs ↔ ∃ st : Stamp, st.chars = cs := by
  constructor
  · rintro ⟨hyear, hmonth, hday, hdate, hletter, hhour, hour_le, hminute, minute_le, hsecond,
      second_le, hfraction, hoffset⟩
    obtain ⟨year_lt, rfl⟩ := (isNumber_iff (by decide)).1 hyear
    obtain ⟨digits, hdigits, rfl⟩ := isFraction_iff.1 hfraction
    obtain ⟨zone, rfl⟩ := isOffset_iff.1 hoffset
    rw [hmonth.eq_zeroPadded (by decide), hday.eq_zeroPadded (by decide),
      hhour.eq_zeroPadded (by decide), hminute.eq_zeroPadded (by decide),
      hsecond.eq_zeroPadded (by decide)]
    obtain ⟨capital, rfl⟩ := exists_capital_iff.2 hletter
    exact ⟨{
      date := ⟨_, _, _⟩
      isValid := isValid_iff_isGregorian.2 hdate
      year_nonneg := Int.natCast_nonneg _
      year_le := by
        dsimp only
        omega
      capital := capital
      hour := ⟨_, Nat.lt_succ_of_le hour_le⟩
      minute := ⟨_, Nat.lt_succ_of_le minute_le⟩
      second := ⟨_, Nat.lt_succ_of_le second_le⟩
      fraction := digits
      isDigit_of_mem := hdigits
      zone := zone }, rfl⟩
  · rintro ⟨st, rfl⟩
    have hyear : ((st.date.year.toNat : Nat) : Int) = st.date.year :=
      Int.toNat_of_nonneg st.year_nonneg
    have hdate : IsGregorian st.date.year.toNat st.date.month st.date.day := by
      rw [← isValid_iff_isGregorian, hyear]
      exact st.isValid
    have hle := Date.le_of_isValid st.isValid
    have hyear_le := st.year_le
    exact .intro (isNumber_zeroPadded (by decide) (by omega))
      (isNumber_zeroPadded (by decide) (by omega)) (isNumber_zeroPadded (by decide) (by omega))
      hdate (exists_capital_iff.1 ⟨_, rfl⟩) (isNumber_zeroPadded (by decide) (by omega)) (by omega)
      (isNumber_zeroPadded (by decide) (by omega)) (by omega)
      (isNumber_zeroPadded (by decide) (by omega)) (by omega)
      (isFraction_iff.2 ⟨_, st.isDigit_of_mem, rfl⟩) (isOffset_iff.2 ⟨_, rfl⟩)

/-! ## The signs -/

theorem IsOffset.mono {signs signs' cs : List Char} (h : IsOffset signs cs)
    (hsigns : ∀ c ∈ signs, c ∈ cs → c ∈ signs') : IsOffset signs' cs := by
  rcases h with hletter | ⟨hsign, hhour, hour_le, hminute, minute_le⟩
  · exact .letter hletter
  · exact .clock (hsigns _ hsign (List.mem_cons_self ..)) hhour hour_le hminute minute_le

/-- Only the signs that stand in a text matter for it. -/
theorem IsDateTime.mono {signs signs' cs : List Char} (h : IsDateTime signs cs)
    (hsigns : ∀ c ∈ signs, c ∈ cs → c ∈ signs') : IsDateTime signs' cs := by
  obtain ⟨hyear, hmonth, hday, hdate, hletter, hhour, hour_le, hminute, minute_le, hsecond,
    second_le, hfraction, hoffset⟩ := h
  refine .intro hyear hmonth hday hdate hletter hhour hour_le hminute minute_le hsecond second_le
    hfraction (hoffset.mono fun c hc hmem ↦ hsigns c hc ?_)
  simp only [List.mem_append, List.mem_cons, hmem, or_true]

theorem IsNumber.longMinus_not_mem {width n : Nat} {cs : List Char} (h : IsNumber width n cs) :
    '\u2212' ∉ cs :=
  fun hmem ↦ absurd (h.isDigit_of_mem _ hmem) (by decide)

theorem IsFraction.longMinus_not_mem {cs : List Char} (h : IsFraction cs) : '\u2212' ∉ cs := by
  rcases h with _ | ⟨-, hdigits⟩
  · exact List.not_mem_nil
  · rw [List.mem_cons]
    rintro (heq | hmem)
    · exact absurd heq (by decide)
    · exact absurd (hdigits _ hmem) (by decide)

theorem IsOffset.longMinus_not_mem {cs : List Char} (h : IsOffset plainSigns cs) :
    '\u2212' ∉ cs := by
  rcases h with hletter | ⟨hsign, hhour, -, hminute, -⟩
  · rcases hletter with rfl | rfl <;> decide
  · simp only [plainSigns, List.mem_cons, List.not_mem_nil, or_false] at hsign
    rcases hsign with rfl | rfl <;> simp [hhour.longMinus_not_mem, hminute.longMinus_not_mem]

theorem IsDateTime.longMinus_not_mem {cs : List Char} (h : IsDateTime plainSigns cs) :
    '\u2212' ∉ cs := by
  obtain ⟨hyear, hmonth, hday, -, hletter, hhour, -, hminute, -, hsecond, -, hfraction, hoffset⟩ :=
    h
  rcases hletter with rfl | rfl <;>
    simp [hyear.longMinus_not_mem, hmonth.longMinus_not_mem, hday.longMinus_not_mem,
      hhour.longMinus_not_mem, hminute.longMinus_not_mem, hsecond.longMinus_not_mem,
      hfraction.longMinus_not_mem, hoffset.longMinus_not_mem]

theorem mem_allSigns {c : Char} : c ∈ allSigns ↔ c ∈ plainSigns ∨ c = '\u2212' := by
  simp [allSigns, plainSigns, or_assoc]

/-- **RFC 3339 does without the typographic minus sign**, and this is all the difference. -/
theorem isDateTime_plainSigns_iff {cs : List Char} :
    IsDateTime plainSigns cs ↔ IsDateTime allSigns cs ∧ '\u2212' ∉ cs := by
  constructor
  · intro h
    exact ⟨h.mono fun c hc _ ↦ mem_allSigns.2 (.inl hc), h.longMinus_not_mem⟩
  · rintro ⟨h, hmem⟩
    refine h.mono fun c hc hcs ↦ (mem_allSigns.1 hc).resolve_right ?_
    rintro rfl
    exact hmem hcs

/-! ## What can be read -/

/-- **What can be read is what the grammar describes.** -/
theorem Instant.exists_ofTimestamp_iff {text : String} :
    (∃ t, Instant.ofTimestamp text = .ok t) ↔ IsDateTime allSigns text.toList := by
  rw [isDateTime_iff]
  constructor
  · rintro ⟨t, ht⟩
    obtain ⟨st, rfl, -⟩ := Instant.ofTimestamp_eq_ok_iff.1 ht
    exact ⟨st, String.toList_ofList.symm⟩
  · rintro ⟨st, hst⟩
    refine ⟨st.instant, Instant.ofTimestamp_eq_ok_iff.2 ⟨st, ?_, rfl⟩⟩
    rw [Stamp.text, hst, String.ofList_toList]

end Calendar

open Calendar

namespace Settings

/-- A timestamp that cannot be read is refused with its text, and no other error has one. -/
theorem generate_invalidTimestamp_iff {s : Settings} {text value : String}
    {error : TimestampError} (enabled : s.isEnabled Builtin.timestamp.name = true) :
    s.generate (.timestamp text) = .error (.invalidTimestamp value error) ↔
      value = text ∧ Instant.ofTimestamp text = .error error := by
  rw [generate_timestamp, if_pos enabled, Expr.timestampText]
  cases Instant.ofTimestamp text with
  | error cause => simp [Except.map, eq_comm]
  | ok t =>
    dsimp only
    split <;> simp [Except.map]

/-- **Which texts are timestamps.**  A text can be read exactly if it is one of the grammar in which
the typographic minus sign stands for a minus sign too; RFC 3339 has those of them without it.  Any
other text is refused as an invalid timestamp, with the text unchanged. -/
theorem generate_timestamp_verdict (text : String) :
    ((∃ t, Instant.ofTimestamp text = .ok t) ↔ IsDateTime allSigns text.toList) ∧
    (IsDateTime plainSigns text.toList ↔
      IsDateTime allSigns text.toList ∧ '\u2212' ∉ text.toList) ∧
    ∀ s : Settings, s.isEnabled Builtin.timestamp.name = true →
      (¬ IsDateTime allSigns text.toList ↔
        ∃ error, s.generate (.timestamp text) = .error (.invalidTimestamp text error)) ∧
      ∀ value error, s.generate (.timestamp text) = .error (.invalidTimestamp value error) →
        value = text := by
  refine ⟨Instant.exists_ofTimestamp_iff, isDateTime_plainSigns_iff, fun s enabled ↦ ⟨?_, ?_⟩⟩
  · simp only [← Instant.exists_ofTimestamp_iff, generate_invalidTimestamp_iff enabled, true_and]
    cases Instant.ofTimestamp text <;> simp
  · intro value error h
    exact ((generate_invalidTimestamp_iff enabled).1 h).1

/-- A leap second on a leap day, and the same day of another year. -/
theorem generate_timestamp_verdict_leap_day :
    Settings.default.isEnabled Builtin.timestamp.name = true ∧
    IsDateTime plainSigns "2024-02-29T23:59:60.5-23:59".toList ∧
    ¬ IsDateTime allSigns "2023-02-29T23:59:60.5-23:59".toList ∧
    ∃ error, Settings.default.generate (.timestamp "2023-02-29T23:59:60.5-23:59") =
      .error (.invalidTimestamp "2023-02-29T23:59:60.5-23:59" error) := by
  have enabled : Settings.default.isEnabled Builtin.timestamp.name = true := rfl
  have hread : Instant.ofTimestamp "2024-02-29T23:59:60.5-23:59" =
      .ok ⟨1709337539, true, 500000000⟩ := by
    decide +kernel
  have herror : Settings.default.generate (.timestamp "2023-02-29T23:59:60.5-23:59") =
      .error (.invalidTimestamp "2023-02-29T23:59:60.5-23:59" .outOfRange) := by
    decide +kernel
  obtain ⟨haccepted, hplain, -⟩ := generate_timestamp_verdict "2024-02-29T23:59:60.5-23:59"
  obtain ⟨-, -, hrefused⟩ := generate_timestamp_verdict "2023-02-29T23:59:60.5-23:59"
  exact ⟨enabled, hplain.2 ⟨haccepted.1 ⟨_, hread⟩, by decide⟩,
    (hrefused _ enabled).1.2 ⟨_, herror⟩, _, herror⟩

/-- The typographic minus sign is read, though RFC 3339 does not have it. -/
theorem generate_timestamp_long_minus :
    ¬ IsDateTime plainSigns "2024-01-01T00:00:00\u221205:00".toList ∧
    Settings.default.generate (.timestamp "2024-01-01T00:00:00\u221205:00") =
      .ok "\"2024-01-01 05:00:00\"" :=
  ⟨fun h ↦ h.longMinus_not_mem (by decide), by decide +kernel⟩

end Settings

end WhereClause
