import WhereClause.Proofs.Calendar.Days
import WhereClause.Proofs.Calendar.Stamp
import WhereClause.Proofs.Calendar.Writable

/-!
# Timestamps at another offset

Clocks at another offset from UTC show another time, and around midnight another date.
`Stamp.shift` writes a timestamp anew for such clocks: the minutes are counted on from where they
stand, and the date is that of the day they fall on.  **The instant stays the same**
(`Stamp.instant_shift`), whatever months and years lie between, because a day is the day of its date
(`Date.toDay_ofDay`).  And of a timestamp nothing but its instant is rendered
(`Converter.generate_timestamp_congr`).
-/

set_option autoImplicit false

namespace WhereClause

namespace Calendar

/-- Every offset of less than a day can be written. -/
theorem OffsetText.exists_minutes_eq {offset : Int} (h : offset.natAbs < 1440) :
    ∃ zone : OffsetText, zone.minutes = offset := by
  have hhours : offset.natAbs / 60 < 24 := by omega
  have hminutes : offset.natAbs % 60 < 60 := by omega
  by_cases hsign : offset < 0
  · refine ⟨.clock .minus ⟨_, hhours⟩ ⟨_, hminutes⟩, ?_⟩
    simp only [minutes, OffsetSign.isNegative, if_true]
    omega
  · refine ⟨.clock .plus ⟨_, hhours⟩ ⟨_, hminutes⟩, ?_⟩
    simp only [minutes, OffsetSign.isNegative, Bool.false_eq_true, if_false]
    omega

namespace Stamp

variable (st : Stamp) (zone : OffsetText)

/-- The minutes from day `0` to a timestamp on clocks at another offset. -/
def minuteAt : Int :=
  st.utcMinute + zone.minutes

/-- The date at another offset. -/
def dateAt : Date :=
  Date.ofDay (st.minuteAt zone / 1440)

/-- Whether the year at another offset has four digits. -/
def FitsAt : Prop :=
  0 ≤ (st.dateAt zone).year ∧ (st.dateAt zone).year ≤ 9999

instance : Decidable (st.FitsAt zone) :=
  inferInstanceAs (Decidable (_ ∧ _))

/-- The timestamp with date and time of day as clocks at another offset show them. -/
def shift (h : st.FitsAt zone) : Stamp :=
  { st with
    date := st.dateAt zone
    isValid := Date.isValid_ofDay _
    year_nonneg := h.1
    year_le := h.2
    hour := ⟨(st.minuteAt zone % 1440 / 60).toNat, by omega⟩
    minute := ⟨(st.minuteAt zone % 60).toNat, by omega⟩
    zone := zone }

variable {st zone}

theorem localMinute_shift (h : st.FitsAt zone) :
    (st.shift zone h).localMinute = st.localMinute + (zone.minutes - st.zone.minutes) := by
  have hday : (st.dateAt zone).toDay = st.minuteAt zone / 1440 := Date.toDay_ofDay _
  -- Day, hour and minute are the digits of one number, to the bases 24 and 60.
  simp only [localMinute, shift, hday]
  simp only [minuteAt, utcMinute, localMinute]
  omega

/-- **The instant stays the same.** -/
theorem instant_shift (h : st.FitsAt zone) : (st.shift zone h).instant = st.instant := by
  have hutc : (st.shift zone h).utcMinute = st.utcMinute := by
    have hlocal := localMinute_shift h
    have hzone : (st.shift zone h).zone = zone := rfl
    rw [utcMinute, utcMinute, hzone]
    omega
  rw [instant, instant, hutc]
  rfl

theorem ofTimestamp_text (st : Stamp) : Instant.ofTimestamp st.text = .ok st.instant :=
  Instant.ofTimestamp_eq_ok_iff.2 ⟨st, rfl, rfl⟩

end Stamp

end Calendar

open Calendar

/-- The call that stands for a timestamp. -/
def Expr.timestamp (text : String) : Expr :=
  .globalCall Builtin.timestamp.name [.literal (.string text)]

/-- The SQL of a timestamp is its text in quotes. -/
theorem Settings.generate_timestamp (s : Settings) (text : String) :
    s.generate (.timestamp text) =
      if s.isEnabled Builtin.timestamp.name then
        (Expr.timestampText s text).map fun cs ↦ String.ofList (Sql.quote cs)
      else .error (.unsupportedFunction Builtin.timestamp.name) := by
  split
  next enabled =>
    cases htext : Expr.timestampText s text with
    | ok cs =>
      refine generate_eq_ok_iff.2 ?_
      rw [String.toList_ofList]
      exact .timestamp enabled htext
    | error error =>
      refine generate_eq_error_iff.2 (.moment enabled ?_)
      rw [Expr.momentError?, htext]
  next disabled =>
    refine generate_eq_error_iff.2 (.function ?_)
    rw [Expr.resolve, Builtin.ofName?_name]
    exact if_neg disabled

namespace Converter

/-- Nothing but the instant of a timestamp is rendered. -/
theorem generate_timestamp_congr {text text' : String} {t : Instant}
    (h : Instant.ofTimestamp text = .ok t) (h' : Instant.ofTimestamp text' = .ok t)
    (c : Converter) : c.generate (.timestamp text') = c.generate (.timestamp text) := by
  have htext : Expr.timestampText c.settings text' = Expr.timestampText c.settings text := by
    rw [Expr.timestampText, Expr.timestampText, h, h']
  rw [generate, generate, Settings.generate_timestamp, Settings.generate_timestamp, htext]

/-- A converter with timestamps has SQL for every timestamp that can be read, unless `%#z` stands in
its format. -/
theorem exists_generate_timestamp {p : Plan} {c : Converter} (hbuild : p.build = .ok c)
    (enabled : c.settings.isEnabled Builtin.timestamp.name = true)
    (hformat : ¬ Format.HasLooseOffset c.settings.timeFormat) {text : String} {t : Instant}
    (ht : Instant.ofTimestamp text = .ok t) : ∃ sql, c.generate (.timestamp text) = .ok sql := by
  obtain ⟨hvalid, -, rfl⟩ := Plan.build_eq_ok_iff.1 hbuild
  obtain ⟨items, hitems⟩ := Settings.exists_parse?_of_validate (s := c.settings) hvalid
  rcases Expr.timestampText_cases hitems ht with ⟨-, cs, hcs⟩ | ⟨hloose, -⟩
  · refine ⟨String.ofList (Sql.quote cs), ?_⟩
    rw [generate, Settings.generate_timestamp, if_pos enabled, hcs]
    rfl
  · exact absurd hloose hformat

/-- **A timestamp is rendered the same at every offset.**  A text that is read can be written anew
for any offset of less than a day, as long as the year there has four digits.  The new text is read
as the same instant, and every converter makes the same of both: SQL if it has timestamps and can
write them, or else the same error. -/
theorem generate_timestamp_shift {text : String} {t : Instant}
    (ht : Instant.ofTimestamp text = .ok t) :
    (∃ st : Stamp, st.text = text) ∧
    (∀ offset : Int, offset.natAbs < 1440 → ∃ zone : OffsetText, zone.minutes = offset) ∧
    ∀ st : Stamp, st.text = text → ∀ (zone : OffsetText) (h : st.FitsAt zone),
      (st.shift zone h).localMinute = st.localMinute + (zone.minutes - st.zone.minutes) ∧
      Instant.ofTimestamp (st.shift zone h).text = .ok t ∧
      (∀ c : Converter,
        c.generate (.timestamp (st.shift zone h).text) = c.generate (.timestamp text)) ∧
      ∀ (p : Plan) (c : Converter), p.build = .ok c →
        c.settings.isEnabled Builtin.timestamp.name = true →
        ¬ Format.HasLooseOffset c.settings.timeFormat →
        ∃ sql, c.generate (.timestamp text) = .ok sql ∧
          c.generate (.timestamp (st.shift zone h).text) = .ok sql := by
  obtain ⟨st, hst, -⟩ := Instant.ofTimestamp_eq_ok_iff.1 ht
  refine ⟨⟨st, hst⟩, fun offset ↦ OffsetText.exists_minutes_eq, ?_⟩
  rintro st rfl zone h
  obtain rfl : st.instant = t := Except.ok.inj (st.ofTimestamp_text.symm.trans ht)
  have hshift : Instant.ofTimestamp (st.shift zone h).text = .ok st.instant := by
    rw [Stamp.ofTimestamp_text, Stamp.instant_shift]
  refine ⟨Stamp.localMinute_shift h, hshift, generate_timestamp_congr ht hshift, ?_⟩
  intro p c hbuild enabled hformat
  obtain ⟨sql, hsql⟩ := exists_generate_timestamp hbuild enabled hformat ht
  exact ⟨sql, hsql, (generate_timestamp_congr ht hshift c).trans hsql⟩

/-- The leap second at the end of 2016, which was in the new year further east. -/
theorem generate_timestamp_shift_new_year :
    ∃ (t : Instant) (p : Plan) (c : Converter),
      Instant.ofTimestamp "2016-12-31T23:59:60.25Z" = .ok t ∧
      Instant.ofTimestamp "2017-01-01T05:29:60.25+05:30" = .ok t ∧ p.build = .ok c ∧
      c.generate (.timestamp "2016-12-31T23:59:60.25Z") = .ok "\"2016-12-31 23:59:60.250\"" ∧
      c.generate (.timestamp "2017-01-01T05:29:60.25+05:30") =
        .ok "\"2016-12-31 23:59:60.250\"" := by
  obtain ⟨st, hst, hfits, htext⟩ : ∃ st : Stamp, st.text = "2016-12-31T23:59:60.25Z" ∧
      ∃ h : st.FitsAt (.clock .plus 5 30),
        (st.shift _ h).text = "2017-01-01T05:29:60.25+05:30" :=
    ⟨{  date := ⟨2016, 12, 31⟩
        isValid := by decide
        year_nonneg := by decide
        year_le := by decide
        capital := true
        hour := 23
        minute := 59
        second := 60
        fraction := ['2', '5']
        isDigit_of_mem := List.all_eq_true.1 (by decide)
        zone := .utc true }, by decide +kernel⟩
  obtain ⟨c, hbuild, hsql⟩ := Plan.exists_build
    (P := fun c ↦ c.generate (.timestamp "2016-12-31T23:59:60.25Z") =
      .ok "\"2016-12-31 23:59:60.250\"") Plan.default (by decide +kernel)
  have ht := hst ▸ st.ofTimestamp_text
  obtain ⟨-, -, hshift⟩ := generate_timestamp_shift ht
  obtain ⟨-, hinstant, hgenerate, -⟩ := hshift st hst _ hfits
  rw [htext] at hinstant hgenerate
  exact ⟨_, _, c, ht, hinstant, hbuild, hsql, (hgenerate c).trans hsql⟩

end Converter

end WhereClause
