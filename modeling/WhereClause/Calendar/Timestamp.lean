import WhereClause.Calendar.Instant
import WhereClause.Text.Utf8

/-!
# Timestamps in text

`Instant.ofTimestamp` reads a date and a time of day with an offset from UTC, as RFC 3339 writes
them: `2024-02-29T12:00:00.5+03:00`.  Text is read as the bytes of its UTF-8 form, from left to
right, and the first thing wrong is the error.
-/

set_option autoImplicit false

namespace WhereClause.Calendar

open Text (utf8 ascii)

/-- What is wrong with a timestamp. -/
inductive TimestampError where
  /-- The date is not followed by a `T`. -/
  | separator
  /-- A character that cannot stand where it does. -/
  | invalid
  /-- A number too large for its place, or a date that does not exist. -/
  | outOfRange
  | tooShort
  | tooLong
deriving DecidableEq

/-- What is wrong, in words. -/
def TimestampError.message : TimestampError → String
  | .separator => "date and time must be separated by `T`"
  | .invalid => "input contains invalid characters"
  | .outOfRange => "input is out of range"
  | .tooShort => "premature end of input"
  | .tooLong => "trailing input"

/-- Whether a byte is a decimal digit. -/
def isDigit (b : UInt8) : Bool :=
  ascii '0' ≤ b && b ≤ ascii '9'

/-- The number spelled by digits; any other byte is invalid. -/
def number (bs : List UInt8) : Except TimestampError Nat :=
  if bs.all isDigit then .ok (bs.foldl (fun n b ↦ 10 * n + (b - ascii '0').toNat) 0)
  else .error .invalid

/-- Asks for one byte. -/
def expect (c : Char) (b : UInt8) : Except TimestampError Unit :=
  if b = ascii c then .ok () else .error .invalid

/-- Asks for a number to be small enough. -/
def bounded (limit n : Nat) : Except TimestampError Unit :=
  if n ≤ limit then .ok () else .error .outOfRange

/-- The fraction of a second in nanoseconds, if there is one, and what follows.  Digits beyond the
ninth are passed over. -/
def readFraction : List UInt8 → Except TimestampError (Nat × List UInt8)
  | b :: rest =>
    if b ≠ ascii '.' then .ok (0, b :: rest)
    else match rest with
      | [] => .error .tooShort
      | d :: _ =>
        if isDigit d then do
          let digits := (rest.takeWhile isDigit).take 9
          let n ← number digits
          return (n * Nat.pow 10 (9 - digits.length), rest.dropWhile isDigit)
        else .error .invalid
  | [] => .ok (0, [])

/-- The sign of an offset and what follows; a minus sign may also be the typographic one. -/
def readSign : List UInt8 → Except TimestampError (Bool × List UInt8)
  | [] => .error .tooShort
  | b :: rest =>
    if b = ascii '+' then .ok (false, rest)
    else if b = ascii '-' then .ok (true, rest)
    else match b, rest with
      | 0xe2, 0x88 :: 0x92 :: rest => .ok (true, rest)
      | _, _ => .error .invalid

/-- The minutes of an offset and what follows. -/
def readOffsetMinutes : List UInt8 → Except TimestampError (Nat × List UInt8)
  | a :: b :: rest =>
    if isDigit a && isDigit b then do
      let n ← number [a, b]
      bounded 59 n
      return (n, rest)
    else .error .invalid
  | _ => .error .tooShort

/-- The offset from UTC in seconds and what follows. -/
def readOffset : List UInt8 → Except TimestampError (Int × List UInt8)
  | bs =>
    match bs with
    | b :: rest =>
      if b = ascii 'Z' ∨ b = ascii 'z' then .ok (0, rest) else readNumericOffset (b :: rest)
    | [] => readNumericOffset []
where
  /-- A sign, two digits, a colon and two digits. -/
  readNumericOffset (bs : List UInt8) : Except TimestampError (Int × List UInt8) := do
    let (negative, bs) ← readSign bs
    match bs with
    | a :: b :: bs =>
      let hours ← number [a, b]
      match bs with
      | [] => throw .tooShort
      | colon :: bs =>
        expect ':' colon
        let (minutes, rest) ← readOffsetMinutes bs
        let seconds : Int := hours * 3600 + minutes * 60
        return (if negative then -seconds else seconds, rest)
    | _ => throw .tooShort

/-- The instant of the bytes of a timestamp. -/
def Instant.ofBytes : List UInt8 → Except TimestampError Instant
  | y1 :: y2 :: y3 :: y4 :: s1 :: m1 :: m2 :: s2 :: d1 :: d2 :: _ ::
      h1 :: h2 :: c1 :: n1 :: n2 :: c2 :: e1 :: e2 :: rest => do
    let year ← number [y1, y2, y3, y4]
    expect '-' s1
    let month ← number [m1, m2]
    expect '-' s2
    let day ← number [d1, d2]
    let date : Date := ⟨year, month, day⟩
    if !date.isValid then throw .outOfRange
    let hour ← number [h1, h2]
    expect ':' c1
    let minute ← number [n1, n2]
    expect ':' c2
    let written ← number [e1, e2]
    let leap := written == 60
    let second := if leap then 59 else written
    let (nanos, rest) ← readFraction rest
    bounded 23 hour
    bounded 59 minute
    bounded 59 second
    let (offset, rest) ← readOffset rest
    if !rest.isEmpty then throw .tooLong
    if 86400 ≤ offset.natAbs then throw .outOfRange
    let wall : Int :=
      (date.toDay - epochDay) * 86400 + (hour * 3600 + minute * 60 + second : Nat)
    return ⟨wall - offset, leap, nanos⟩
  | _ => .error .tooShort

/-- The instant of a timestamp. -/
def Instant.ofTimestamp (text : String) : Except TimestampError Instant :=
  let bytes := utf8 text.toList
  match bytes[10]? with
  | some b =>
    if b = ascii 'T' ∨ b = ascii 't' then Instant.ofBytes bytes else .error .separator
  | none => .error .separator

end WhereClause.Calendar
