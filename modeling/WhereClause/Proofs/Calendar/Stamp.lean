import WhereClause.Proofs.Calendar.Days
import WhereClause.Proofs.Calendar.Digits
import WhereClause.Proofs.Sequencing

/-!
# Timestamps as they are written

A `Stamp` is a timestamp with everything there is to choose in writing it: the date and the time of
day on the clocks of some place, the case of the letters, the digits of the fraction and how the
offset from UTC is put down.  It has a text and it has an instant, both by formulas that say nothing
of how a text is read.  **What is read as an instant is the text of a stamp of this instant, and the
text of every stamp is read as its instant** (`Instant.ofTimestamp_eq_ok_iff`).

The reader goes from left to right, and each part of it has such a lemma: a fraction may be missing
(`readFraction_fractionChars`), and an offset may be a letter, or hours and minutes after one of
three signs (`readOffset_eq_ok_iff`).
-/

set_option autoImplicit false

namespace WhereClause.Calendar

open Numeral (ofDigits)
open Text

/-! ## Fractions -/

/-- The fraction of a second with its point, or nothing if there are no digits. -/
def fractionChars (digits : List Char) : List Char :=
  if digits = [] then [] else '.' :: digits

/-- The nanoseconds of the digits of a fraction.  Digits beyond the ninth do not count. -/
def fractionNanos (digits : List Char) : Nat :=
  ofDigits (digits.take 9) * 10 ^ (9 - (digits.take 9).length)

theorem readFraction_point {cs : List Char} {rest : List UInt8} (hcs : ∀ c ∈ cs, c.isDigit = true)
    (hne : cs ≠ []) (h : rest.takeWhile isDigit = utf8 cs) :
    readFraction (ascii '.' :: rest) = .ok (fractionNanos cs, rest.dropWhile isDigit) := by
  have htake : ∀ c ∈ cs.take 9, c.isDigit = true := fun c hc ↦ hcs c (List.mem_of_mem_take hc)
  have hdigits : (utf8 cs).take 9 = utf8 (cs.take 9) := by
    rw [utf8_digits hcs, utf8_digits htake, List.map_take]
  have hlength : (utf8 (cs.take 9)).length = (cs.take 9).length := by
    rw [utf8_digits htake, List.length_map]
  cases rest with
  | nil =>
    rw [utf8_digits hcs] at h
    exact absurd (List.map_eq_nil_iff.1 h.symm) hne
  | cons d rest =>
    have hd : isDigit d = true := by
      by_contra hd
      rw [List.takeWhile_cons_of_neg hd, utf8_digits hcs] at h
      exact hne (List.map_eq_nil_iff.1 h.symm)
    simp only [readFraction, ne_eq, not_true_eq_false, if_false, if_pos hd, h, hdigits, hlength,
      number_utf8 htake]
    rfl

/-- What is read as a fraction was written as one. -/
theorem exists_fraction_of_readFraction {bs rest : List UInt8} {nanos : Nat}
    (h : readFraction bs = .ok (nanos, rest)) :
    ∃ digits, (∀ c ∈ digits, c.isDigit = true) ∧ nanos = fractionNanos digits ∧
      bs = utf8 (fractionChars digits) ++ rest := by
  have hempty : ∀ bs', Except.ok (0, bs') = (.ok (nanos, rest) : Except TimestampError _) →
      ∃ digits, (∀ c ∈ digits, c.isDigit = true) ∧ nanos = fractionNanos digits ∧
        bs' = utf8 (fractionChars digits) ++ rest := by
    rintro _ ⟨⟩
    exact ⟨[], by simp, rfl, rfl⟩
  cases bs with
  | nil => exact hempty [] h
  | cons b bs =>
    by_cases hb : b = ascii '.'
    · subst hb
      cases bs with
      | nil => cases h
      | cons d bs =>
        by_cases hd : isDigit d = true
        · obtain ⟨cs, hcs, hutf8⟩ :=
            exists_digits (List.all_eq_true.1 (List.all_takeWhile (l := d :: bs)))
          have hne : cs ≠ [] := by
            rintro rfl
            rw [List.takeWhile_cons_of_pos hd] at hutf8
            cases hutf8
          rw [readFraction_point hcs hne hutf8.symm] at h
          cases h
          refine ⟨cs, hcs, rfl, ?_⟩
          rw [fractionChars, if_neg hne]
          show ascii '.' :: (d :: bs) = ascii '.' :: (utf8 cs ++ (d :: bs).dropWhile isDigit)
          rw [hutf8, List.takeWhile_append_dropWhile]
        · simp only [readFraction, ne_eq, not_true_eq_false, if_false, if_neg hd] at h
          cases h
    · exact hempty (b :: bs) ((if_pos hb).symm.trans h)

theorem readFraction_fractionChars {digits : List Char} (hdigits : ∀ c ∈ digits, c.isDigit = true)
    {rest : List UInt8} (hrest : ∀ b ∈ rest.head?, isDigit b = false ∧ b ≠ ascii '.') :
    readFraction (utf8 (fractionChars digits) ++ rest) = .ok (fractionNanos digits, rest) := by
  rw [fractionChars]
  split
  next hnil =>
    subst hnil
    cases rest with
    | nil => rfl
    | cons b rest => exact if_pos (hrest b rfl).2
  next hne =>
    have hbytes := isDigit_of_mem_utf8 hdigits
    have hnone : rest.takeWhile isDigit = [] ∧ rest.dropWhile isDigit = rest := by
      cases rest with
      | nil => exact ⟨rfl, rfl⟩
      | cons b rest =>
        have hb : ¬ isDigit b = true := by simp [(hrest b rfl).1]
        exact ⟨List.takeWhile_cons_of_neg hb, List.dropWhile_cons_of_neg hb⟩
    have htake : (utf8 digits ++ rest).takeWhile isDigit = utf8 digits := by
      rw [List.takeWhile_append_of_pos hbytes, hnone.1, List.append_nil]
    have hdrop : (utf8 digits ++ rest).dropWhile isDigit = rest := by
      rw [List.dropWhile_append_of_pos hbytes, hnone.2]
    have hpoint : utf8 ('.' :: digits) ++ rest = ascii '.' :: (utf8 digits ++ rest) := rfl
    rw [hpoint, readFraction_point hdigits hne htake, hdrop]

/-! ## Offsets -/

/-- The sign of an offset. -/
inductive OffsetSign where
  | plus
  | minus
  /-- The typographic minus sign. -/
  | longMinus
deriving DecidableEq

namespace OffsetSign

/-- The character of a sign. -/
def char : OffsetSign → Char
  | .plus => '+'
  | .minus => '-'
  | .longMinus => '\u2212'

/-- Whether clocks are behind UTC. -/
def isNegative : OffsetSign → Bool
  | .plus => false
  | .minus => true
  | .longMinus => true

end OffsetSign

/-- An offset from UTC as it is written. -/
inductive OffsetText where
  /-- The letter for UTC itself, which may be small. -/
  | utc (capital : Bool)
  /-- Hours and minutes. -/
  | clock (sign : OffsetSign) (hours : Fin 24) (minutes : Fin 60)
deriving DecidableEq

namespace OffsetText

/-- The characters of an offset. -/
def chars : OffsetText → List Char
  | .utc capital => [if capital then 'Z' else 'z']
  | .clock sign hours minutes =>
    sign.char :: (zeroPadded 2 hours ++ ':' :: zeroPadded 2 minutes)

/-- How many minutes clocks are ahead of UTC. -/
def minutes : OffsetText → Int
  | .utc _ => 0
  | .clock sign hours minutes =>
    if sign.isNegative then -(60 * hours + minutes) else 60 * hours + minutes

end OffsetText

/-- An offset starts with neither a digit nor a point. -/
theorem OffsetText.head_utf8_chars (zone : OffsetText) :
    ∀ b ∈ (utf8 zone.chars).head?, isDigit b = false ∧ b ≠ ascii '.' := by
  rcases zone with capital | ⟨sign, hours, minutes⟩
  · cases capital <;> rintro _ ⟨⟩ <;> decide
  · cases sign <;> rintro _ ⟨⟩ <;> decide

theorem expect_eq_ok_iff {c : Char} {b : UInt8} {u : Unit} :
    expect c b = .ok u ↔ b = ascii c := by
  rw [expect]
  split <;> simp_all

theorem bounded_eq_ok_iff {limit n : Nat} {u : Unit} : bounded limit n = .ok u ↔ n ≤ limit := by
  rw [bounded]
  split <;> simp_all

theorem readSign_eq_ok_iff {bs rest : List UInt8} {negative : Bool} :
    readSign bs = .ok (negative, rest) ↔
      ∃ sign : OffsetSign, bs = utf8 [sign.char] ++ rest ∧ negative = sign.isNegative := by
  constructor
  · intro h
    rw [readSign.eq_def] at h
    split at h
    · cases h
    next b bs =>
      split at h
      next hb =>
        cases h
        exact ⟨.plus, by rw [hb]; rfl, rfl⟩
      next =>
        split at h
        next hb =>
          cases h
          exact ⟨.minus, by rw [hb]; rfl, rfl⟩
        next =>
          split at h
          next =>
            cases h
            exact ⟨.longMinus, rfl, rfl⟩
          next => cases h
  · rintro ⟨sign, rfl, rfl⟩
    cases sign <;> rfl

/-- Two bytes that spell a number, in front of others. -/
theorem two_digits_iff {bs rest : List UInt8} {n : Nat} :
    (n < 100 ∧ bs = utf8 (zeroPadded 2 n) ++ rest) ↔
      ∃ a b, bs = a :: b :: rest ∧ number [a, b] = .ok n := by
  constructor
  · rintro ⟨hn, rfl⟩
    obtain ⟨a, b, hab⟩ := exists_two_digits hn
    exact ⟨a, b, by rw [hab]; rfl, hab ▸ number_zeroPadded 2 n⟩
  · rintro ⟨a, b, rfl, h⟩
    obtain ⟨hn, hab⟩ := number_pair_eq_ok_iff.1 h
    exact ⟨hn, by rw [← hab]; rfl⟩

theorem isDigit_of_number {a b : UInt8} {n : Nat} (h : number [a, b] = .ok n) :
    isDigit a = true ∧ isDigit b = true := by
  rw [number] at h
  split at h
  next hall => simpa using hall
  next => cases h

theorem readOffsetMinutes_eq_ok_iff {bs rest : List UInt8} {n : Nat} :
    readOffsetMinutes bs = .ok (n, rest) ↔ n < 60 ∧ bs = utf8 (zeroPadded 2 n) ++ rest := by
  constructor
  · intro h
    rw [readOffsetMinutes.eq_def] at h
    split at h
    next a b bs =>
      split at h
      · obtain ⟨m, hm, h⟩ := Except.bind_eq_ok_iff.1 h
        obtain ⟨_, hbound, ⟨⟩⟩ := Except.bind_eq_ok_iff.1 h
        exact ⟨Nat.lt_succ_of_le (bounded_eq_ok_iff.1 hbound), (two_digits_iff.2 ⟨a, b, rfl, hm⟩).2⟩
      · cases h
    next => cases h
  · rintro ⟨hn, hbs⟩
    obtain ⟨a, b, rfl, hnumber⟩ := two_digits_iff.1 ⟨by omega, hbs⟩
    obtain ⟨ha, hb⟩ := isDigit_of_number hnumber
    have hbound : bounded 59 n = .ok () := bounded_eq_ok_iff.2 (Nat.le_of_lt_succ hn)
    rw [readOffsetMinutes, ha, hb]
    exact Except.bind_eq_ok_iff.2 ⟨n, hnumber, Except.bind_eq_ok_iff.2 ⟨(), hbound, rfl⟩⟩

theorem utf8_clock (sign : OffsetSign) (hours minutes : Nat) (rest : List UInt8) :
    utf8 (sign.char :: (zeroPadded 2 hours ++ ':' :: zeroPadded 2 minutes)) ++ rest =
      utf8 [sign.char] ++ (utf8 (zeroPadded 2 hours) ++
        ascii ':' :: (utf8 (zeroPadded 2 minutes) ++ rest)) := by
  have hcolon : String.utf8EncodeChar ':' = [ascii ':'] := rfl
  simp only [utf8_cons, utf8_append, hcolon, List.append_assoc, List.singleton_append]
  rfl

theorem readNumericOffset_eq_ok_iff {bs rest : List UInt8} {offset : Int} :
    readOffset.readNumericOffset bs = .ok (offset, rest) ↔
      ∃ (sign : OffsetSign) (hours minutes : Nat), hours < 100 ∧ minutes < 60 ∧
        bs = utf8 (sign.char :: (zeroPadded 2 hours ++ ':' :: zeroPadded 2 minutes)) ++ rest ∧
        offset = if sign.isNegative then -(hours * 3600 + minutes * 60 : Int)
          else hours * 3600 + minutes * 60 := by
  constructor
  · intro h
    rw [readOffset.readNumericOffset] at h
    obtain ⟨⟨negative, bs₁⟩, hsign, h⟩ := Except.bind_eq_ok_iff.1 h
    obtain ⟨sign, rfl, rfl⟩ := readSign_eq_ok_iff.1 hsign
    rcases bs₁ with _ | ⟨a, _ | ⟨b, _ | ⟨colon, bs₂⟩⟩⟩
    · cases h
    · cases h
    · obtain ⟨_, -, ⟨⟩⟩ := Except.bind_eq_ok_iff.1 h
    · obtain ⟨hours, hnumber, h⟩ := Except.bind_eq_ok_iff.1 h
      obtain ⟨_, hcolon, h⟩ := Except.bind_eq_ok_iff.1 h
      obtain ⟨⟨minutes, rest'⟩, hminutes, ⟨⟩⟩ := Except.bind_eq_ok_iff.1 h
      obtain rfl := expect_eq_ok_iff.1 hcolon
      obtain ⟨hlt, rfl⟩ := readOffsetMinutes_eq_ok_iff.1 hminutes
      obtain ⟨hhours, hbytes⟩ := two_digits_iff.2 ⟨a, b, rfl, hnumber⟩
      exact ⟨sign, hours, minutes, hhours, hlt, by rw [utf8_clock, ← hbytes], rfl⟩
  · rintro ⟨sign, hours, minutes, hhours, hminutes, rfl, rfl⟩
    obtain ⟨a, b, hbytes, hnumber⟩ := two_digits_iff.1 ⟨hhours, rfl⟩
    rw [utf8_clock, hbytes, readOffset.readNumericOffset]
    refine Except.bind_eq_ok_iff.2 ⟨_, readSign_eq_ok_iff.2 ⟨sign, rfl, rfl⟩, ?_⟩
    refine Except.bind_eq_ok_iff.2 ⟨_, hnumber, ?_⟩
    refine Except.bind_eq_ok_iff.2 ⟨(), expect_eq_ok_iff.2 rfl, ?_⟩
    exact Except.bind_eq_ok_iff.2 ⟨_, readOffsetMinutes_eq_ok_iff.2 ⟨hminutes, rfl⟩, rfl⟩

theorem readOffset_of_ne {b : UInt8} {bs : List UInt8} (h : ¬ (b = ascii 'Z' ∨ b = ascii 'z')) :
    readOffset (b :: bs) = readOffset.readNumericOffset (b :: bs) :=
  if_neg h

/-- **What is read as an offset**, if it is less than a day. -/
theorem readOffset_eq_ok_iff {bs rest : List UInt8} {offset : Int} :
    (readOffset bs = .ok (offset, rest) ∧ offset.natAbs < 86400) ↔
      ∃ zone : OffsetText, bs = utf8 zone.chars ++ rest ∧ offset = 60 * zone.minutes := by
  constructor
  · rintro ⟨h, hday⟩
    have hnumeric : readOffset.readNumericOffset bs = .ok (offset, rest) →
        ∃ zone : OffsetText, bs = utf8 zone.chars ++ rest ∧ offset = 60 * zone.minutes := by
      intro h
      obtain ⟨sign, hours, minutes, -, hminutes, rfl, rfl⟩ := readNumericOffset_eq_ok_iff.1 h
      -- Two digits may give up to 99 hours; that they are fewer than 24 follows from the bound.
      have hhours : hours < 24 := by
        split at hday <;> omega
      refine ⟨.clock sign ⟨hours, hhours⟩ ⟨minutes, hminutes⟩, rfl, ?_⟩
      simp only [OffsetText.minutes]
      split <;> omega
    cases bs with
    | nil => exact hnumeric h
    | cons b bs =>
      by_cases hletter : b = ascii 'Z' ∨ b = ascii 'z'
      · have hzero := Except.ok.inj ((if_pos hletter).symm.trans h)
        cases hzero
        rcases hletter with rfl | rfl
        · exact ⟨.utc true, rfl, rfl⟩
        · exact ⟨.utc false, rfl, rfl⟩
      · exact hnumeric ((readOffset_of_ne hletter).symm.trans h)
  · rintro ⟨zone, rfl, rfl⟩
    cases zone with
    | utc capital => cases capital <;> exact ⟨rfl, by decide⟩
    | clock sign hours minutes =>
      have hoffset : readOffset.readNumericOffset
          (utf8 (OffsetText.clock sign hours minutes).chars ++ rest) =
            .ok (60 * (OffsetText.clock sign hours minutes).minutes, rest) := by
        rw [readNumericOffset_eq_ok_iff]
        refine ⟨sign, hours, minutes, by omega, minutes.isLt, rfl, ?_⟩
        simp only [OffsetText.minutes]
        split <;> omega
      constructor
      · cases sign <;> exact Eq.trans (readOffset_of_ne (by decide)) hoffset
      · simp only [OffsetText.minutes]
        split <;> omega

/-! ## Stamps -/

/-- A timestamp as it is written. -/
structure Stamp where
  date : Date
  isValid : date.isValid = true
  /-- A year has four digits. -/
  year_nonneg : 0 ≤ date.year
  year_le : date.year ≤ 9999
  /-- The letter before the time of day may be small. -/
  capital : Bool
  hour : Fin 24
  minute : Fin 60
  /-- A leap second is second `60`. -/
  second : Fin 61
  /-- The digits of the fraction of a second, if there are any. -/
  fraction : List Char
  isDigit_of_mem : ∀ c ∈ fraction, c.isDigit = true
  zone : OffsetText

namespace Stamp

/-- The characters of a timestamp. -/
def chars (st : Stamp) : List Char :=
  zeroPadded 4 st.date.year.toNat ++ '-' :: (zeroPadded 2 st.date.month ++ '-' ::
    (zeroPadded 2 st.date.day ++ (if st.capital then 'T' else 't') ::
      (zeroPadded 2 st.hour ++ ':' :: (zeroPadded 2 st.minute ++ ':' ::
        (zeroPadded 2 st.second ++ (fractionChars st.fraction ++ st.zone.chars))))))

/-- The text of a timestamp. -/
def text (st : Stamp) : String :=
  String.ofList st.chars

/-- The minutes from day `0` to a timestamp on the clocks of its place. -/
def localMinute (st : Stamp) : Int :=
  1440 * st.date.toDay + 60 * st.hour + st.minute

/-- The same in UTC. -/
def utcMinute (st : Stamp) : Int :=
  st.localMinute - st.zone.minutes

/-- The instant of a timestamp. -/
def instant (st : Stamp) : Instant where
  seconds := 60 * (st.utcMinute - 1440 * epochDay) + (min st.second 59 : Nat)
  leap := st.second.val == 60
  nanos := fractionNanos st.fraction

/-- The seconds, counted as they are read. -/
theorem instant_eq (st : Stamp) : st.instant =
    { seconds := (st.date.toDay - epochDay) * 86400 + (st.hour * 3600 + st.minute * 60 +
        (if st.second.val = 60 then 59 else st.second.val) : Nat) - 60 * st.zone.minutes
      leap := st.second.val == 60
      nanos := fractionNanos st.fraction } := by
  have hsecond : min st.second.val 59 = if st.second.val = 60 then 59 else st.second.val := by
    split <;> omega
  simp only [instant, utcMinute, localMinute, hsecond, Instant.mk.injEq, and_true]
  omega

theorem utf8_chars (st : Stamp) :
    utf8 st.chars = utf8 (zeroPadded 4 st.date.year.toNat) ++ ascii '-' ::
      (utf8 (zeroPadded 2 st.date.month) ++ ascii '-' :: (utf8 (zeroPadded 2 st.date.day) ++
        ascii (if st.capital then 'T' else 't') :: (utf8 (zeroPadded 2 st.hour) ++ ascii ':' ::
          (utf8 (zeroPadded 2 st.minute) ++ ascii ':' :: (utf8 (zeroPadded 2 st.second) ++
            (utf8 (fractionChars st.fraction) ++ utf8 st.zone.chars)))))) := by
  have hletter : (if st.capital then 'T' else 't').toNat ≤ 127 := by
    split <;> decide
  simp only [chars, utf8_append, utf8_cons_ascii hletter, utf8_cons_ascii (c := '-') (by decide),
    utf8_cons_ascii (c := ':') (by decide)]

end Stamp

/-- What is read was written, if the letter before the time of day is as it should be. -/
theorem exists_stamp_of_ofBytes {bs : List UInt8} {t : Instant} {capital : Bool}
    (hletter : bs[10]? = some (ascii (if capital then 'T' else 't')))
    (h : Instant.ofBytes bs = .ok t) : ∃ st : Stamp, utf8 st.chars = bs ∧ st.instant = t := by
  rw [Instant.ofBytes.eq_def] at h
  split at h
  next y1 y2 y3 y4 s1 m1 m2 s2 d1 d2 _ h1 h2 c1 n1 n2 c2 e1 e2 rest =>
    obtain rfl := Option.some.inj hletter
    simp only [Except.bind_eq_ok_iff, Except.if_throw_eq_ok_iff, expect_eq_ok_iff,
      bounded_eq_ok_iff, exists_const, Bool.not_eq_true, Bool.not_eq_false', List.isEmpty_iff,
      Nat.not_le, beq_iff_eq] at h
    -- All tests on the way have been passed, and what is left are the bytes of the numbers.
    obtain ⟨year, hyear, rfl, month, hmonth, rfl, day, hday, hvalid, hour, hhour, rfl, minute,
      hminute, rfl, second, hsecond, ⟨_, bs⟩, hfraction, hour_le, minute_le, hle,
      ⟨_, _⟩, hoffset, rfl, hlt, ⟨⟩⟩ := h
    have second_le : second ≤ 60 := by
      split at hle <;> omega
    obtain ⟨year_lt, hyear⟩ := (number_eq_ok_iff 4 (by decide) rfl).1 hyear
    have year_le : (year : Int) ≤ 9999 := by omega
    obtain ⟨-, hmonth⟩ := number_pair_eq_ok_iff.1 hmonth
    obtain ⟨-, hday⟩ := number_pair_eq_ok_iff.1 hday
    obtain ⟨-, hhour⟩ := number_pair_eq_ok_iff.1 hhour
    obtain ⟨-, hminute⟩ := number_pair_eq_ok_iff.1 hminute
    obtain ⟨-, hsecond⟩ := number_pair_eq_ok_iff.1 hsecond
    obtain ⟨fraction, hdigits, rfl, rfl⟩ := exists_fraction_of_readFraction hfraction
    obtain ⟨zone, rfl, rfl⟩ := readOffset_eq_ok_iff.1 ⟨hoffset, hlt⟩
    refine ⟨{
      date := ⟨year, month, day⟩
      isValid := hvalid
      year_nonneg := Int.natCast_nonneg year
      year_le := year_le
      capital := capital
      hour := ⟨hour, Nat.lt_succ_of_le hour_le⟩
      minute := ⟨minute, Nat.lt_succ_of_le minute_le⟩
      second := ⟨second, Nat.lt_succ_of_le second_le⟩
      fraction := fraction
      isDigit_of_mem := hdigits
      zone := zone }, ?_, ?_⟩
    · rw [Stamp.utf8_chars]
      simp only [Int.toNat_natCast]
      rw [← hyear, ← hmonth, ← hday, ← hhour, ← hminute, ← hsecond, List.append_nil]
      rfl
    · exact Stamp.instant_eq _
  next => cases h

namespace Stamp

/-- The bytes of a timestamp: nineteen for the date and the time of day, and then the rest. -/
theorem exists_utf8_chars (st : Stamp) :
    ∃ y1 y2 y3 y4 m1 m2 d1 d2 h1 h2 n1 n2 e1 e2,
      utf8 st.chars = y1 :: y2 :: y3 :: y4 :: ascii '-' :: m1 :: m2 :: ascii '-' :: d1 :: d2 ::
        ascii (if st.capital then 'T' else 't') :: h1 :: h2 :: ascii ':' :: n1 :: n2 ::
        ascii ':' :: e1 :: e2 :: (utf8 (fractionChars st.fraction) ++ utf8 st.zone.chars) ∧
      number [y1, y2, y3, y4] = .ok st.date.year.toNat ∧ number [m1, m2] = .ok st.date.month ∧
      number [d1, d2] = .ok st.date.day ∧ number [h1, h2] = .ok st.hour ∧
      number [n1, n2] = .ok st.minute ∧ number [e1, e2] = .ok st.second := by
  obtain ⟨hmonth, hday⟩ := Date.le_of_isValid st.isValid
  have hyear := st.year_le
  have hlength : (utf8 (zeroPadded 4 st.date.year.toNat)).length = 4 :=
    length_utf8_zeroPadded (by decide) (by omega)
  obtain ⟨y1, year, hy⟩ := List.exists_of_length_succ _ hlength
  obtain ⟨y2, y3, y4, rfl⟩ := List.length_eq_three.1 (Nat.succ.inj (hy ▸ hlength))
  obtain ⟨m1, m2, hm⟩ := exists_two_digits (n := st.date.month) (by omega)
  obtain ⟨d1, d2, hd⟩ := exists_two_digits (n := st.date.day) (by omega)
  obtain ⟨h1, h2, hh⟩ := exists_two_digits (n := st.hour) (by omega)
  obtain ⟨n1, n2, hn⟩ := exists_two_digits (n := st.minute) (by omega)
  obtain ⟨e1, e2, he⟩ := exists_two_digits (n := st.second) (by omega)
  refine ⟨y1, y2, y3, y4, m1, m2, d1, d2, h1, h2, n1, n2, e1, e2, ?_, ?_⟩
  · rw [utf8_chars, hy, hm, hd, hh, hn, he]
    rfl
  · rw [← hy, ← hm, ← hd, ← hh, ← hn, ← he]
    simp only [number_zeroPadded, and_self]

theorem ofBytes_utf8_chars (st : Stamp) : Instant.ofBytes (utf8 st.chars) = .ok st.instant := by
  obtain ⟨y1, y2, y3, y4, m1, m2, d1, d2, h1, h2, n1, n2, e1, e2, hbytes, hy, hm, hd, hh, hn, he⟩ :=
    st.exists_utf8_chars
  have hzone := readOffset_eq_ok_iff.2 ⟨st.zone, (List.append_nil _).symm, rfl⟩
  have hfraction : readFraction (utf8 (fractionChars st.fraction) ++ utf8 st.zone.chars) =
      .ok (fractionNanos st.fraction, utf8 st.zone.chars) :=
    readFraction_fractionChars st.isDigit_of_mem st.zone.head_utf8_chars
  have hdate : (⟨(st.date.year.toNat : Int), st.date.month, st.date.day⟩ : Date) = st.date := by
    rw [Int.toNat_of_nonneg st.year_nonneg]
  rw [hbytes, Instant.ofBytes]
  simp only [Except.bind_eq_ok_iff, Except.if_throw_eq_ok_iff, expect_eq_ok_iff, bounded_eq_ok_iff,
    exists_const, Bool.not_eq_true, Bool.not_eq_false', List.isEmpty_iff, Nat.not_le, beq_iff_eq]
  refine ⟨_, hy, trivial, _, hm, trivial, _, hd, ?_, _, hh, trivial, _, hn, trivial, _, he, _,
    hfraction, ?_, ?_, ?_, _, hzone.1, rfl, hzone.2, ?_⟩
  · exact hdate.symm ▸ st.isValid
  · exact Nat.le_of_lt_succ st.hour.isLt
  · exact Nat.le_of_lt_succ st.minute.isLt
  · split <;> omega
  · rw [hdate, instant_eq]
    rfl

theorem getElem?_utf8_chars (st : Stamp) :
    (utf8 st.chars)[10]? = some (ascii (if st.capital then 'T' else 't')) := by
  obtain ⟨y1, y2, y3, y4, m1, m2, d1, d2, h1, h2, n1, n2, e1, e2, hbytes, -⟩ := st.exists_utf8_chars
  rw [hbytes]
  rfl

end Stamp

/-- **What is read as an instant is the text of a timestamp of this instant.** -/
theorem Instant.ofTimestamp_eq_ok_iff {text : String} {t : Instant} :
    Instant.ofTimestamp text = .ok t ↔ ∃ st : Stamp, st.text = text ∧ st.instant = t := by
  constructor
  · intro h
    rw [Instant.ofTimestamp] at h
    split at h
    next sep hsep =>
      split at h
      next hletter =>
        obtain ⟨capital, rfl⟩ : ∃ capital : Bool, ascii (if capital then 'T' else 't') = sep := by
          rcases hletter with rfl | rfl
          · exact ⟨true, rfl⟩
          · exact ⟨false, rfl⟩
        obtain ⟨st, hst, hinstant⟩ := exists_stamp_of_ofBytes hsep h
        refine ⟨st, ?_, hinstant⟩
        rw [Stamp.text, utf8_inj.1 hst, String.ofList_toList]
      next => cases h
    next => cases h
  · rintro ⟨st, rfl, rfl⟩
    have hletter : ascii (if st.capital then 'T' else 't') = ascii 'T' ∨
        ascii (if st.capital then 'T' else 't') = ascii 't' := by
      cases st.capital
      · exact .inr rfl
      · exact .inl rfl
    rw [Instant.ofTimestamp, Stamp.text, String.toList_ofList]
    simp only [st.getElem?_utf8_chars, if_pos hletter, st.ofBytes_utf8_chars]

end WhereClause.Calendar
