import WhereClause.Calendar.Zone
import WhereClause.Decimal.Integer

/-!
# Time formats

A time format is text with specifiers such as `%Y`, in which each specifier is replaced by a part of
the date or of the time of day.  `Format.parse?` reads a format character by character into a list
of items, and fails on a specifier it does not know; `Format.print?` writes the items for a reading
of the clocks.

Numbers have a width of their own and are filled up with zeros or blanks; `%-Y`, `%_Y` and `%0Y`
choose between no filling, blanks and zeros.  One item, `Item.looseOffset`, is of use for reading
times only: a format may contain it, but it cannot be written.
-/

set_option autoImplicit false

namespace WhereClause.Calendar

/-- How a number is filled up to its width. -/
inductive Pad where
  | none | zero | space
deriving DecidableEq

/-- The numbers of a reading. -/
inductive Field where
  | year | century | yearOfCentury
  | isoYear | isoYearOfCentury | isoWeek
  | quarter | month | day | ordinal
  | sundayWeek | mondayWeek
  /-- The day of the week from Sunday, `0`, to Saturday. -/
  | sundayWeekday
  /-- The day of the week from Monday, `1`, to Sunday. -/
  | mondayWeekday
  | hour | hour12 | minute | second | nanosecond
  /-- Seconds since 1970. -/
  | timestamp
deriving DecidableEq

/-- The forms of an offset from UTC. -/
inductive OffsetForm where
  /-- Hours and minutes. -/
  | plain
  /-- Hours and minutes with a colon. -/
  | colon
  /-- Hours, minutes and seconds with colons. -/
  | seconds
  /-- Hours. -/
  | hours
deriving DecidableEq

/-- A part of a time format. -/
inductive Item where
  /-- A character that stands for itself. -/
  | text (c : Char)
  | number (f : Field) (pad : Pad)
  /-- The name of the weekday, in full or with three letters. -/
  | weekdayName (full : Bool)
  /-- The name of the month, in full or with three letters. -/
  | monthName (full : Bool)
  /-- Before or after noon, in capitals or small letters. -/
  | noon (capitals : Bool)
  /-- The short name of the time in force. -/
  | abbreviation
  | offset (form : OffsetForm)
  /-- The fraction of a second with its point, in as many groups of three digits as it needs. -/
  | fraction
  /-- The fraction of a second with this many digits, with its point or without. -/
  | digits (point : Bool) (count : Nat)
  /-- An offset in any form, for reading only. -/
  | looseOffset
deriving DecidableEq

/-! ## Reading a format -/

/-- The number a letter stands for, and how it is filled up by default. -/
def Field.ofLetter? : Char → Option (Field × Pad)
  | 'Y' => some (.year, .zero)
  | 'C' => some (.century, .zero)
  | 'y' => some (.yearOfCentury, .zero)
  | 'G' => some (.isoYear, .zero)
  | 'g' => some (.isoYearOfCentury, .zero)
  | 'V' => some (.isoWeek, .zero)
  | 'q' => some (.quarter, .none)
  | 'm' => some (.month, .zero)
  | 'd' => some (.day, .zero)
  | 'e' => some (.day, .space)
  | 'j' => some (.ordinal, .zero)
  | 'U' => some (.sundayWeek, .zero)
  | 'W' => some (.mondayWeek, .zero)
  | 'w' => some (.sundayWeekday, .none)
  | 'u' => some (.mondayWeekday, .none)
  | 'H' => some (.hour, .zero)
  | 'k' => some (.hour, .space)
  | 'I' => some (.hour12, .zero)
  | 'l' => some (.hour12, .space)
  | 'M' => some (.minute, .zero)
  | 'S' => some (.second, .zero)
  | 'f' => some (.nanosecond, .zero)
  | 's' => some (.timestamp, .none)
  | _ => none

/-- The items of `%m/%d/%y`. -/
def slashDate : List Item :=
  [.number .month .zero, .text '/', .number .day .zero, .text '/', .number .yearOfCentury .zero]

/-- The items of `%Y-%m-%d`. -/
def dashDate : List Item :=
  [.number .year .zero, .text '-', .number .month .zero, .text '-', .number .day .zero]

/-- The items of `%H:%M`. -/
def clock : List Item :=
  [.number .hour .zero, .text ':', .number .minute .zero]

/-- The items of `%H:%M:%S`. -/
def fullClock : List Item :=
  clock ++ [.text ':', .number .second .zero]

/-- The items a letter stands for by itself. -/
def letterItems? (c : Char) : Option (List Item) :=
  match Field.ofLetter? c with
  | some (f, pad) => some [.number f pad]
  | none => match c with
    | 'A' => some [.weekdayName true]
    | 'a' => some [.weekdayName false]
    | 'B' => some [.monthName true]
    | 'b' => some [.monthName false]
    | 'h' => some [.monthName false]
    | 'p' => some [.noon true]
    | 'P' => some [.noon false]
    | 'Z' => some [.abbreviation]
    | 'z' => some [.offset .plain]
    | 'D' => some slashDate
    | 'x' => some slashDate
    | 'F' => some dashDate
    | 'v' => some [.number .day .space, .text '-', .monthName false, .text '-', .number .year .zero]
    | 'R' => some clock
    | 'T' => some fullClock
    | 'X' => some fullClock
    | 'r' => some [.number .hour12 .zero, .text ':', .number .minute .zero, .text ':',
        .number .second .zero, .text ' ', .noon true]
    | 'c' => some ([.weekdayName false, .text ' ', .monthName false, .text ' ',
        .number .day .space, .text ' '] ++ fullClock ++ [.text ' ', .number .year .zero])
    | '+' => some (dashDate ++ [.text 'T'] ++ fullClock ++ [.fraction, .offset .colon])
    | 'n' => some [.text '\n']
    | 't' => some [.text '\t']
    | '%' => some [.text '%']
    | _ => none

/-- What has been read of a specifier. -/
inductive Pending where
  /-- No specifier has been started. -/
  | idle
  /-- A percent sign. -/
  | percent
  /-- A percent sign and a choice of filling. -/
  | padded (pad : Pad)
  /-- A percent sign and a number sign. -/
  | loose
  /-- A percent sign and this many colons. -/
  | colons (count : Nat)
  /-- A percent sign and a point. -/
  | dot
  /-- A percent sign, a point or not, and a number of digits. -/
  | count (point : Bool) (digits : Nat)
deriving DecidableEq

/-- A number of digits a fraction can be asked to have. -/
def fractionDigits? : Char → Option Nat
  | '3' => some 3
  | '6' => some 6
  | '9' => some 9
  | _ => none

/-- Takes one character of a format, and gives the items it completes. -/
def Pending.step : Pending → Char → Option (Pending × List Item)
  | .idle, '%' => some (.percent, [])
  | .idle, c => some (.idle, [.text c])
  | .percent, '-' => some (.padded .none, [])
  | .percent, '_' => some (.padded .space, [])
  | .percent, '0' => some (.padded .zero, [])
  | .percent, '#' => some (.loose, [])
  | .percent, ':' => some (.colons 1, [])
  | .percent, '.' => some (.dot, [])
  | .percent, c => match fractionDigits? c with
    | some n => some (.count false n, [])
    | none => (letterItems? c).map fun items ↦ (.idle, items)
  | .padded pad, c => (Field.ofLetter? c).map fun (f, _) ↦ (.idle, [.number f pad])
  | .loose, 'z' => some (.idle, [.looseOffset])
  | .colons 1, 'z' => some (.idle, [.offset .colon])
  | .colons 2, 'z' => some (.idle, [.offset .seconds])
  | .colons 3, 'z' => some (.idle, [.offset .hours])
  | .colons 1, ':' => some (.colons 2, [])
  | .colons 2, ':' => some (.colons 3, [])
  | .dot, 'f' => some (.idle, [.fraction])
  | .dot, c => (fractionDigits? c).map fun n ↦ (.count true n, [])
  | .count pointed n, 'f' => some (.idle, [.digits pointed n])
  | _, _ => none

/-- Reads a format of which a specifier may have been started. -/
def Format.parseFrom? : Pending → List Char → Option (List Item)
  | .idle, [] => some []
  | _, [] => none
  | p, c :: cs => do
    let (p, items) ← p.step c
    return items ++ (← parseFrom? p cs)

/-- The items of a format, if all its specifiers are known. -/
def Format.parse? (format : String) : Option (List Item) :=
  Format.parseFrom? .idle format.toList

/-! ## Writing a reading -/

/-- The names of the weekdays from Monday on. -/
def weekdayNames : List String :=
  ["Monday", "Tuesday", "Wednesday", "Thursday", "Friday", "Saturday", "Sunday"]

/-- The names of the months. -/
def monthNames : List String :=
  ["January", "February", "March", "April", "May", "June", "July", "August", "September",
    "October", "November", "December"]

/-- A name in full or its first three letters. -/
def nameText (names : List String) (index : Nat) (full : Bool) : List Char :=
  let name := (names[index]?.getD "").toList
  if full then name else name.take 3

/-- A number filled up to a width.  Zeros stand between sign and digits, blanks before the sign. -/
def padded (pad : Pad) (width : Nat) (showPlus : Bool) (n : Int) : List Char :=
  let sign := if n < 0 then ['-'] else if showPlus then ['+'] else []
  let digits := Decimal.natText n.natAbs
  let missing := width - (sign.length + digits.length)
  match pad with
  | .none => sign ++ digits
  | .zero => sign ++ List.replicate missing '0' ++ digits
  | .space => List.replicate missing ' ' ++ sign ++ digits

/-- A natural number filled up with zeros. -/
def zeroPadded (width n : Nat) : List Char :=
  padded .zero width false n

/-- A year.  One that does not have four digits at most shows its sign. -/
def yearText (pad : Pad) (year : Int) : List Char :=
  if 0 ≤ year ∧ year ≤ 9999 then padded pad 4 false year else padded pad 5 true year

namespace Reading

/-- The date. -/
def date (r : Reading) : Date := Date.ofDay r.day

/-- The hour of the day. -/
def hour (r : Reading) : Nat := r.second / 3600

/-- The minute of the hour. -/
def minute (r : Reading) : Nat := r.second / 60 % 60

/-- The second of the minute; a leap second comes after the second it repeats. -/
def secondOfMinute (r : Reading) : Nat :=
  r.second % 60 + if r.instant.leap then 1 else 0

/-- A number of the reading. -/
def number (r : Reading) (pad : Pad) : Field → List Char
  | .year => yearText pad r.date.year
  | .century => padded pad 2 false (r.date.year / 100)
  | .yearOfCentury => padded pad 2 false (r.date.year % 100)
  | .isoYear => yearText pad (isoYear r.day)
  | .isoYearOfCentury => padded pad 2 false (isoYear r.day % 100)
  | .isoWeek => padded pad 2 false (isoWeek r.day)
  | .quarter => Decimal.natText ((r.date.month - 1) / 3 + 1)
  | .month => padded pad 2 false r.date.month
  | .day => padded pad 2 false r.date.day
  | .ordinal => padded pad 3 false (ordinal r.day + 1)
  | .sundayWeek => padded pad 2 false (weekFrom 1 r.day)
  | .mondayWeek => padded pad 2 false (weekFrom 0 r.day)
  | .sundayWeekday => Decimal.natText ((weekday r.day + 1) % 7)
  | .mondayWeekday => Decimal.natText (weekday r.day + 1)
  | .hour => padded pad 2 false r.hour
  | .hour12 => padded pad 2 false ((r.hour + 11) % 12 + 1)
  | .minute => padded pad 2 false r.minute
  | .second => padded pad 2 false r.secondOfMinute
  | .nanosecond => padded pad 9 false r.instant.nanos
  | .timestamp => padded pad 9 false r.instant.seconds

/-- The offset from UTC.  Without seconds it is rounded to minutes, a half up; hours alone are cut
off. -/
def offsetText (r : Reading) (form : OffsetForm) : List Char :=
  let distance := r.offset.seconds.natAbs
  let minutes := (distance + 30) / 60
  let sign := if r.offset.seconds < 0 then '-' else '+'
  sign :: match form with
    | .plain => zeroPadded 2 (minutes / 60) ++ zeroPadded 2 (minutes % 60)
    | .colon => zeroPadded 2 (minutes / 60) ++ ':' :: zeroPadded 2 (minutes % 60)
    | .seconds => zeroPadded 2 (distance / 3600) ++ ':' :: (zeroPadded 2 (distance / 60 % 60) ++
        ':' :: zeroPadded 2 (distance % 60))
    | .hours => zeroPadded 2 (distance / 3600)

/-- The fraction of a second with a point, or nothing for a whole second. -/
def fractionText (r : Reading) : List Char :=
  let n := r.instant.nanos
  if n = 0 then []
  else if n % 1000000 = 0 then '.' :: zeroPadded 3 (n / 1000000)
  else if n % 1000 = 0 then '.' :: zeroPadded 6 (n / 1000)
  else '.' :: zeroPadded 9 n

/-- An item for the reading, if it can be written. -/
def item? (r : Reading) : Item → Option (List Char)
  | .text c => some [c]
  | .number f pad => some (r.number pad f)
  | .weekdayName full => some (nameText weekdayNames (weekday r.day) full)
  | .monthName full => some (nameText monthNames (r.date.month - 1) full)
  | .noon capitals =>
    some (match decide (r.hour < 12), capitals with
      | true, true => ['A', 'M']
      | true, false => ['a', 'm']
      | false, true => ['P', 'M']
      | false, false => ['p', 'm'])
  | .abbreviation => some r.offset.abbreviation.toList
  | .offset form => some (r.offsetText form)
  | .fraction => some r.fractionText
  | .digits point count =>
    let digits := zeroPadded count (r.instant.nanos / Nat.pow 10 (9 - count))
    some (if point then '.' :: digits else digits)
  | .looseOffset => none

end Reading

/-- The items of a format for a reading, if all of them can be written. -/
def Format.print? (r : Reading) : List Item → Option (List Char)
  | [] => some []
  | item :: items => do return (← r.item? item) ++ (← print? r items)

end WhereClause.Calendar
