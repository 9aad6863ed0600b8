import WhereClause.Calendar.Date

/-!
# Instants

A point in time, counted in seconds from the start of 1970 in UTC.  A leap second is the second
before it once more, with a mark.
-/

set_option autoImplicit false

namespace WhereClause.Calendar

/-- A point in time. -/
structure Instant where
  /-- Seconds since the first of January 1970, 00:00 UTC. -/
  seconds : Int
  /-- Whether this is the leap second after that second. -/
  leap : Bool
  /-- Nanoseconds since the start of the second. -/
  nanos : Nat
deriving DecidableEq

/-- The day on which the count of seconds starts. -/
def epochDay : Int := 719162

theorem epochDay_eq : epochDay = (Date.mk 1970 1 1).toDay := by
  decide

/-- The instant without what is finer than a millisecond. -/
def Instant.truncate (t : Instant) : Instant :=
  { t with nanos := t.nanos / 1000000 * 1000000 }

end WhereClause.Calendar
