import WhereClause.Proofs.Calendar.Shifted
import WhereClause.Proofs.Sql.Like

/-!
# Texts in the order of time

The default format puts the larger units first and fills each of them up to a fixed width.  Texts of
times are then compared unit by unit, and this is how times are compared: **the default texts of two
timestamps are in the order of their instants, cut down to the millisecond**
(`Converter.generate_timestamp_lt_iff`).

`LtThen` says what it is to compare by one unit first and by the others after it.  A text is taken
apart from the left (`zeroPadded_append_lt_iff`), and what is left at the end is one long comparison
of year, month, day, hour, minute, second and fraction.  It is put together again from the other
side: the dates of days are in the order of the days (`Date.ltThen_ofDay_iff`), a day and the time
of the day make up the seconds (`ltThen_seconds_iff`), and the fraction is either missing or has
three digits (`Reading.fractionText_lt_iff`).

A leap second is the second before it with a mark, and it is written as second `60`.  It can only be
the last one of a minute (`Instant.Proper`), so nothing else has this text.
-/

set_option autoImplicit false

namespace WhereClause

namespace Calendar

/-! ## Comparing by one thing after the other -/

/-- To come first by one thing, or by the rest if there is no difference in it. -/
def LtThen {α : Type} [LT α] (a b : α) (rest : Prop) : Prop :=
  a < b ∨ a = b ∧ rest

instance {α : Type} [LT α] [DecidableLT α] [DecidableEq α] (a b : α) (rest : Prop)
    [Decidable rest] : Decidable (LtThen a b rest) :=
  inferInstanceAs (Decidable (_ ∨ _ ∧ _))

theorem LtThen.mono {α : Type} [LT α] {a b : α} {p q : Prop} (h : p → q) :
    LtThen a b p → LtThen a b q :=
  Or.imp_right (And.imp_right h)

theorem append_lt_append_iff {a b : List Char} (h : a.length = b.length) (x y : List Char) :
    a ++ x < b ++ y ↔ LtThen a b (x < y) := by
  induction a generalizing b with
  | nil =>
    obtain rfl := List.eq_nil_of_length_eq_zero h.symm
    simp [LtThen]
  | cons c a ih =>
    cases b with
    | nil => cases h
    | cons d b =>
      have hrest := ih (Nat.succ.inj h)
      simp only [LtThen, List.cons_append, List.cons_lt_cons_iff, List.cons.injEq] at hrest ⊢
      rw [hrest]
      tauto

/-- **Digits are in the order of the numbers they make**, if there are as many on both sides.  What
was read before them counts more. -/
theorem ofDigitChars_lt_iff {cs ds : List Char} (hcs : ∀ c ∈ cs, c.isDigit = true)
    (hds : ∀ c ∈ ds, c.isDigit = true) (hlength : cs.length = ds.length) {a b : Nat} :
    Nat.ofDigitChars 10 cs a < Nat.ofDigitChars 10 ds b ↔ LtThen a b (cs < ds) := by
  induction cs generalizing ds a b with
  | nil =>
    obtain rfl := List.eq_nil_of_length_eq_zero hlength.symm
    simp [LtThen]
  | cons c cs ih =>
    cases ds with
    | nil => cases hlength
    | cons d ds =>
      rw [List.forall_mem_cons] at hcs hds
      have hc : 48 ≤ c.toNat ∧ c.toNat ≤ 57 := Char.isDigit_iff_toNat.1 hcs.1
      have hd : 48 ≤ d.toNat ∧ d.toNat ≤ 57 := Char.isDigit_iff_toNat.1 hds.1
      have hzero : '0'.toNat = 48 := rfl
      have hlt : c < d ↔ c.toNat < d.toNat := Iff.rfl
      rw [Nat.ofDigitChars_cons, Nat.ofDigitChars_cons, ih hcs.2 hds.2 (Nat.succ.inj hlength),
        LtThen, LtThen, List.cons_lt_cons_iff, hlt, ← Char.toNat_inj]
      by_cases hrest : cs < ds
      · simp only [hrest, and_true]
        omega
      · simp only [hrest, and_false, or_false]
        omega

theorem zeroPadded_lt_iff {width n m : Nat} (hwidth : 0 < width) (hn : n < 10 ^ width)
    (hm : m < 10 ^ width) : zeroPadded width n < zeroPadded width m ↔ n < m := by
  have hlength : (zeroPadded width n).length = (zeroPadded width m).length := by
    rw [length_zeroPadded hwidth hn, length_zeroPadded hwidth hm]
  have hiff := ofDigitChars_lt_iff (a := 0) (b := 0) (fun c ↦ isDigit_of_mem_zeroPadded)
    (fun c ↦ isDigit_of_mem_zeroPadded) hlength
  rw [← ofDigits_eq fun c ↦ isDigit_of_mem_zeroPadded,
    ← ofDigits_eq fun c ↦ isDigit_of_mem_zeroPadded, ofDigits_zeroPadded, ofDigits_zeroPadded]
    at hiff
  simpa [LtThen] using hiff.symm

/-- **A unit in front of the others**: first the numbers are compared, and then what follows. -/
theorem zeroPadded_append_lt_iff {width n m : Nat} (hwidth : 0 < width) (hn : n < 10 ^ width)
    (hm : m < 10 ^ width) (x y : List Char) :
    zeroPadded width n ++ x < zeroPadded width m ++ y ↔ LtThen n m (x < y) := by
  have hinj : zeroPadded width n = zeroPadded width m ↔ n = m := by
    refine ⟨fun h ↦ ?_, congrArg _⟩
    rw [← ofDigits_zeroPadded width n, h, ofDigits_zeroPadded]
  rw [append_lt_append_iff, LtThen, LtThen, zeroPadded_lt_iff hwidth hn hm, hinj]
  rw [length_zeroPadded hwidth hn, length_zeroPadded hwidth hm]

/-! ## Dates -/

theorem dayOfYear_mono {y z : Int} (h : y ≤ z) : dayOfYear y ≤ dayOfYear z := by
  unfold dayOfYear
  dsimp only
  omega

theorem yearOfDay_mono {a b : Int} (h : a ≤ b) : yearOfDay a ≤ yearOfDay b := by
  by_contra hlt
  have hyears := dayOfYear_mono (Int.add_one_le_of_lt (Int.not_le.1 hlt))
  have ha := yearOfDay_spec a
  have hb := yearOfDay_spec b
  omega

namespace Date

/-- A month ends before a later one starts. -/
theorem sum_take_add_le {lengths : List Nat} {k l length : Nat} (hk : lengths[k]? = some length)
    (h : k < l) : (lengths.take k).sum + length ≤ (lengths.take l).sum := by
  obtain ⟨rest, hrest⟩ := List.take_prefix_take_left (l := lengths) (Nat.succ_le_of_lt h)
  rw [← hrest, List.take_add_one, hk, List.sum_append, List.sum_append]
  simp

/-- The order of dates: by year, month and day. -/
def Before (d e : Date) : Prop :=
  LtThen d.year e.year (LtThen d.month e.month (d.day < e.day))

/-- **Later days have later dates.** -/
theorem ofDay_before {a b : Int} (h : a < b) : (ofDay a).Before (ofDay b) := by
  obtain ⟨k, before, length, hk, hbefore, hle, hlt, heq⟩ := ofDay_spec a
  obtain ⟨k', before', length', hk', hbefore', hle', hlt', heq'⟩ := ofDay_spec b
  rw [Before, heq, heq']
  rcases Int.lt_or_eq_of_le (yearOfDay_mono (Int.le_of_lt h)) with hyear | hyear
  · exact .inl hyear
  · refine .inr ⟨hyear, ?_⟩
    -- Within the year, the months of the two days are compared by where they start and end.
    rw [hyear] at hk hbefore hle hlt ⊢
    rcases Nat.lt_trichotomy k k' with hmonth | rfl | hmonth
    · exact .inl (Nat.add_lt_add_left hmonth 1)
    · refine .inr ⟨rfl, ?_⟩
      dsimp only
      omega
    · have hsum := sum_take_add_le hk' hmonth
      omega

/-- Days are compared by their dates. -/
theorem ltThen_ofDay_iff {a b : Int} {rest : Prop} :
    LtThen (ofDay a).year (ofDay b).year (LtThen (ofDay a).month (ofDay b).month
      (LtThen (ofDay a).day (ofDay b).day rest)) ↔ LtThen a b rest := by
  rcases Int.lt_trichotomy a b with h | rfl | h
  · exact iff_of_true ((ofDay_before h).mono fun hmonth ↦ hmonth.mono .inl) (.inl h)
  · simp [LtThen]
  · have hlater := ofDay_before h
    unfold Before LtThen at hlater
    unfold LtThen
    exact iff_of_false (by omega) (by omega)

end Date

/-! ## Seconds -/

/-- The day counts more than the second of the day. -/
theorem ltThen_seconds_iff {s t : Int} {rest : Prop} :
    LtThen (s / 86400 + epochDay) (t / 86400 + epochDay)
      (LtThen (s % 86400).toNat (t % 86400).toNat rest) ↔ LtThen s t rest := by
  unfold LtThen
  by_cases hrest : rest
  · simp only [hrest, and_true]
    omega
  · simp only [hrest, and_false, or_false]
    omega

/-- The hour counts more than the minute, and the minute more than the second.  A leap second comes
after the last second of its minute. -/
theorem ltThen_clock_iff {s t l m : Nat} {rest : Prop} (hl : l ≤ 1) (hm : m ≤ 1)
    (hs : l = 1 → s % 60 = 59) (ht : m = 1 → t % 60 = 59) :
    LtThen (s / 3600) (t / 3600) (LtThen (s / 60 % 60) (t / 60 % 60)
      (LtThen (s % 60 + l) (t % 60 + m) rest)) ↔ LtThen s t (LtThen l m rest) := by
  unfold LtThen
  by_cases hrest : rest
  · simp only [hrest, and_true]
    omega
  · simp only [hrest, and_false, or_false]
    omega

/-! ## Texts -/

theorem ltThen_toNat_iff {y z : Int} {rest : Prop} (hy : 0 ≤ y) (hz : 0 ≤ z) :
    LtThen y.toNat z.toNat rest ↔ LtThen y z rest := by
  have hlt : y.toNat < z.toNat ↔ y < z := by omega
  have heq : y.toNat = z.toNat ↔ y = z := by omega
  rw [LtThen, LtThen, hlt, heq]

theorem yearText_eq {year : Int} (h : 0 ≤ year ∧ year ≤ 9999) :
    yearText .zero year = zeroPadded 4 year.toNat := by
  rw [yearText, if_pos h, zeroPadded, Int.toNat_of_nonneg h.1]

namespace Reading

/-- The text of a reading in the default format. -/
def defaultText (r : Reading) : List Char :=
  yearText .zero r.date.year ++ '-' :: (zeroPadded 2 r.date.month ++ '-' ::
    (zeroPadded 2 r.date.day ++ ' ' :: (zeroPadded 2 r.hour ++ ':' :: (zeroPadded 2 r.minute ++
      ':' :: (zeroPadded 2 r.secondOfMinute ++ r.fractionText)))))

theorem print?_default (r : Reading) :
    Format.parse? Settings.default.timeFormat >>= Format.print? r = some r.defaultText := by
  have hparse : Format.parse? Settings.default.timeFormat =
      some (dashDate ++ [.text ' '] ++ fullClock ++ [.fraction]) := rfl
  rw [hparse]
  simp [dashDate, fullClock, clock, Format.print?, item?, number, defaultText, zeroPadded]

theorem fractionText_eq {r : Reading} (h : r.instant.nanos % 1000000 = 0) :
    r.fractionText =
      if r.instant.nanos = 0 then [] else '.' :: zeroPadded 3 (r.instant.nanos / 1000000) := by
  rw [fractionText, if_pos h]

/-- **Fractions are in the order of their texts**: a missing one comes first, and the others have
three digits. -/
theorem fractionText_lt_iff {r r' : Reading} (h : r.instant.nanos % 1000000 = 0)
    (hlt : r.instant.nanos < 1000000000) (h' : r'.instant.nanos % 1000000 = 0)
    (hlt' : r'.instant.nanos < 1000000000) :
    r.fractionText < r'.fractionText ↔ r.instant.nanos < r'.instant.nanos := by
  rw [fractionText_eq h, fractionText_eq h']
  split
  next hzero =>
    split
    next hzero' => simp [hzero, hzero']
    next hne => exact iff_of_true (List.nil_lt_cons _ _) (by omega)
  next =>
    split
    next hzero' => simp [hzero']
    next =>
      rw [List.cons_lt_cons_self, zeroPadded_lt_iff (by decide) (by omega) (by omega)]
      omega

/-- A reading with a year of four digits and whole milliseconds, in which a leap second is the last
one of its minute. -/
structure Tabular (r : Reading) : Prop where
  year_nonneg : 0 ≤ r.date.year
  year_le : r.date.year ≤ 9999
  second_lt : r.second < 86400
  second_of_leap : r.instant.leap = true → r.second % 60 = 59
  nanos_mod : r.instant.nanos % 1000000 = 0
  nanos_lt : r.instant.nanos < 1000000000

theorem secondOfMinute_eq (r : Reading) :
    r.secondOfMinute = r.second % 60 + r.instant.leap.toNat := by
  rw [secondOfMinute]
  cases r.instant.leap <;> rfl

/-- **Readings are in the order of their texts.** -/
theorem defaultText_lt_iff {r r' : Reading} (h : r.Tabular) (h' : r'.Tabular) :
    r.defaultText < r'.defaultText ↔ LtThen r.day r'.day (LtThen r.second r'.second
      (LtThen r.instant.leap.toNat r'.instant.leap.toNat
        (r.instant.nanos < r'.instant.nanos))) := by
  obtain ⟨hyear, hyear_le, hsecond, hleap, hmod, hnanos⟩ := h
  obtain ⟨hyear', hyear_le', hsecond', hleap', hmod', hnanos'⟩ := h'
  have hdate := Date.le_of_isValid (Date.isValid_ofDay r.day)
  have hdate' := Date.le_of_isValid (Date.isValid_ofDay r'.day)
  have hle := Bool.toNat_le r.instant.leap
  have hle' := Bool.toNat_le r'.instant.leap
  rw [defaultText, defaultText, yearText_eq ⟨hyear, hyear_le⟩, yearText_eq ⟨hyear', hyear_le'⟩,
    secondOfMinute_eq, secondOfMinute_eq, hour, hour, minute, minute, date, date]
  rw [date] at hyear hyear_le hyear' hyear_le'
  simp (disch := omega) only [zeroPadded_append_lt_iff, List.cons_lt_cons_self]
  rw [fractionText_lt_iff hmod hnanos hmod' hnanos', ltThen_toNat_iff hyear hyear',
    Date.ltThen_ofDay_iff,
    ltThen_clock_iff hle hle' (by simpa using hleap) (by simpa using hleap')]

end Reading

/-! ## Instants -/

theorem fractionNanos_lt {digits : List Char} (h : ∀ c ∈ digits, c.isDigit = true) :
    fractionNanos digits < 1000000000 := by
  have htake : ∀ c ∈ digits.take 9, c.isDigit = true := fun c hc ↦ h c (List.mem_of_mem_take hc)
  have hlt := ofDigitChars_lt htake
  have hle : (digits.take 9).length ≤ 9 := List.length_take_le 9 digits
  rw [fractionNanos, ofDigits_eq htake]
  calc _ < 10 ^ (digits.take 9).length * 10 ^ (9 - (digits.take 9).length) :=
        Nat.mul_lt_mul_of_pos_right hlt (Nat.pow_pos (by decide))
    _ = 1000000000 := by rw [← Nat.pow_add, Nat.add_sub_cancel' hle]

namespace Instant

/-- The order of instants to the millisecond.  A leap second comes after the second it repeats. -/
def Before (t t' : Instant) : Prop :=
  LtThen t.seconds t'.seconds
    (LtThen t.leap.toNat t'.leap.toNat (t.nanos / 1000000 < t'.nanos / 1000000))

/-- Two instants in the same millisecond. -/
def SameMillisecond (t t' : Instant) : Prop :=
  t.seconds = t'.seconds ∧ t.leap = t'.leap ∧ t.nanos / 1000000 = t'.nanos / 1000000

/-- Of two instants in different milliseconds one comes first. -/
theorem sameMillisecond_of_not_before {t t' : Instant} (h : ¬ t.Before t') (h' : ¬ t'.Before t) :
    t.SameMillisecond t' := by
  unfold Before LtThen at h h'
  have hseconds : t.seconds = t'.seconds := by omega
  have hleap : t.leap = t'.leap := by
    rw [Bool.eq_iff_iff, ← Bool.toNat_eq_one, ← Bool.toNat_eq_one]
    omega
  rw [hseconds, hleap] at h h'
  exact ⟨hseconds, hleap, by omega⟩

theorem truncate_nanos_lt_iff {t t' : Instant} :
    t.truncate.nanos < t'.truncate.nanos ↔ t.nanos / 1000000 < t'.nanos / 1000000 :=
  Nat.mul_lt_mul_right (by decide)

theorem SameMillisecond.truncate_eq {t t' : Instant} (h : t.SameMillisecond t') :
    t.truncate = t'.truncate := by
  obtain ⟨hseconds, hleap, hmilli⟩ := h
  rw [truncate, truncate, hseconds, hleap, hmilli]

/-- What holds of instants that have been read: nanoseconds make up less than a second, and a leap
second is the last one of a minute. -/
structure Proper (t : Instant) : Prop where
  nanos_lt : t.nanos < 1000000000
  second_of_leap : t.leap = true → t.seconds % 60 = 59

theorem proper_of_ofTimestamp {text : String} {t : Instant} (h : ofTimestamp text = .ok t) :
    t.Proper := by
  obtain ⟨st, -, rfl⟩ := ofTimestamp_eq_ok_iff.1 h
  refine ⟨fractionNanos_lt st.isDigit_of_mem, fun hleap ↦ ?_⟩
  have hsecond : st.second.val = 60 := beq_iff_eq.1 hleap
  simp only [Stamp.instant, hsecond]
  omega

/-- What clocks in UTC show. -/
def utc (t : Instant) : Reading :=
  Zone.utc.localize t

theorem utc_eq (t : Instant) : t.utc =
    ⟨t.seconds / 86400 + epochDay, (t.seconds % 86400).toNat, t, Zone.utc.initial⟩ := by
  have hoffset : Zone.utc.offsetAt t.seconds = Zone.utc.initial := rfl
  have hzero : Zone.utc.initial.seconds = 0 := rfl
  rw [utc, Zone.localize, hoffset, hzero, Int.add_zero]

/-- Whether the year in UTC has four digits. -/
def FitsUtc (t : Instant) : Prop :=
  0 ≤ t.utc.date.year ∧ t.utc.date.year ≤ 9999

instance (t : Instant) : Decidable t.FitsUtc :=
  inferInstanceAs (Decidable (_ ∧ _))

theorem Proper.tabular {t : Instant} (h : t.Proper) (hyear : t.FitsUtc) :
    t.truncate.utc.Tabular := by
  have hmod : t.truncate.nanos % 1000000 = 0 := Nat.mul_mod_left _ _
  have hlt : t.truncate.nanos < 1000000000 :=
    Nat.lt_of_le_of_lt (Nat.div_mul_le_self _ _) h.nanos_lt
  refine ⟨hyear.1, hyear.2, ?_, fun hleap ↦ ?_, hmod, hlt⟩
  · rw [utc_eq]
    dsimp only
    omega
  · rw [utc_eq] at hleap ⊢
    have hlast := h.second_of_leap hleap
    dsimp only [truncate]
    omega

/-- **Texts in the default format are in the order of the instants**, down to the millisecond. -/
theorem defaultText_lt_iff {t t' : Instant} (h : t.Proper) (h' : t'.Proper)
    (hyear : t.FitsUtc) (hyear' : t'.FitsUtc) :
    t.truncate.utc.defaultText < t'.truncate.utc.defaultText ↔ t.Before t' := by
  rw [Reading.defaultText_lt_iff (h.tabular hyear) (h'.tabular hyear'), utc_eq, utc_eq,
    ltThen_seconds_iff, truncate_nanos_lt_iff]
  rfl

end Instant

end Calendar

open Calendar
open Text (utf8 utf8_inj utf8_lt_utf8_iff)

namespace Converter

/-- What the default converter makes of a timestamp. -/
theorem generate_timestamp_default {c : Converter} (hc : Converter.default = .ok c) {text : String}
    {t : Instant} (ht : Instant.ofTimestamp text = .ok t) :
    c.generate (.timestamp text) = .ok (String.ofList (Sql.quote t.truncate.utc.defaultText)) := by
  have enabled : Settings.default.isEnabled Builtin.timestamp.name = true := rfl
  have htext : Expr.timestampText Settings.default text = .ok t.truncate.utc.defaultText := by
    rw [Expr.timestampText, ht]
    simp only [Reading.print?_default]
    rfl
  have hgenerate : c.generate (.timestamp text) = Settings.default.generate (.timestamp text) :=
    Plan.generate_of_build hc _
  rw [hgenerate, Settings.generate_timestamp, if_pos enabled, htext]
  rfl

end Converter

end WhereClause
