/-!
# Dates

Days are counted from the first of January of the year 1, a Monday, which is day `0`; the calendar
is the Gregorian one in both directions.  `Date.ofDay` and `Date.toDay` go back and forth between the
count and the date.
-/

set_option autoImplicit false

namespace WhereClause.Calendar

/-- Whether a year has a leap day. -/
def isLeap (year : Int) : Bool :=
  decide (year % 4 = 0 ∧ (year % 100 ≠ 0 ∨ year % 400 = 0))

/-- The number of days from day `0` to the first day of a year. -/
def dayOfYear (year : Int) : Int :=
  let y := year - 1
  365 * y + y / 4 - y / 100 + y / 400

/-- Years follow each other without gap. -/
theorem dayOfYear_succ (year : Int) :
    dayOfYear (year + 1) = dayOfYear year + if isLeap year then 366 else 365 := by
  unfold dayOfYear isLeap
  split <;> simp_all <;> omega

/-- The year a day belongs to.  The mean length of a year gives it up to one, and the first days of
the years nearby decide. -/
def yearOfDay (day : Int) : Int :=
  let guess := 400 * day / 146097 + 1
  if day < dayOfYear guess then guess - 1
  else if dayOfYear (guess + 1) ≤ day then guess + 1
  else guess

/-- **Every day lies in its year.** -/
theorem yearOfDay_spec (day : Int) :
    dayOfYear (yearOfDay day) ≤ day ∧ day < dayOfYear (yearOfDay day + 1) := by
  unfold yearOfDay
  unfold dayOfYear
  dsimp only
  split
  · omega
  · split <;> omega

/-- The lengths of the months of a year. -/
def monthLengths (leap : Bool) : List Nat :=
  [31, if leap then 29 else 28, 31, 30, 31, 30, 31, 31, 30, 31, 30, 31]

/-- A date of the Gregorian calendar. -/
structure Date where
  year : Int
  /-- January is `1`. -/
  month : Nat
  /-- The first day of a month is `1`. -/
  day : Nat
deriving DecidableEq

namespace Date

/-- The length of the month of a date, or `0` if there is no such month. -/
def monthLength (d : Date) : Nat :=
  if d.month = 0 then 0 else ((monthLengths (isLeap d.year))[d.month - 1]?).getD 0

/-- Whether the calendar has this date. -/
def isValid (d : Date) : Bool :=
  decide (1 ≤ d.day ∧ d.day ≤ d.monthLength)

/-- The number of days of the year before a date. -/
def daysBefore (d : Date) : Nat :=
  ((monthLengths (isLeap d.year)).take (d.month - 1)).foldl (· + ·) 0 + (d.day - 1)

/-- The day of a date. -/
def toDay (d : Date) : Int :=
  dayOfYear d.year + d.daysBefore

/-- Finds the month, counted on from `month`, that the day at distance `rest` lies in. -/
def findMonth (rest : Nat) (month : Nat) : List Nat → Nat × Nat
  | [] => (month, rest + 1)
  | length :: lengths =>
    if rest < length then (month, rest + 1) else findMonth (rest - length) (month + 1) lengths

/-- The date of a day. -/
def ofDay (day : Int) : Date :=
  let year := yearOfDay day
  let (month, day) := findMonth (day - dayOfYear year).toNat 1 (monthLengths (isLeap year))
  ⟨year, month, day⟩

end Date

/-! ## Weeks -/

/-- The day of the week, where Monday is `0`. -/
def weekday (day : Int) : Nat :=
  (day % 7).toNat

/-- The Thursday of the week a day lies in; weeks start on Monday. -/
def thursday (day : Int) : Int :=
  day - day % 7 + 3

/-- The year a week belongs to: the one its Thursday lies in. -/
def isoYear (day : Int) : Int :=
  yearOfDay (thursday day)

/-- The number of a week within its year, counted from `1`. -/
def isoWeek (day : Int) : Nat :=
  ((thursday day - dayOfYear (isoYear day)) / 7 + 1).toNat

/-- The number of days of the year before a day. -/
def ordinal (day : Int) : Nat :=
  (day - dayOfYear (yearOfDay day)).toNat

/-- The number of a week counted from the first Monday of the year, or, with `offset` `1`, from the
first Sunday; the days before it are in week `0`. -/
def weekFrom (offset : Int) (day : Int) : Nat :=
  (ordinal day + 7 - ((day + offset) % 7).toNat) / 7

end WhereClause.Calendar
