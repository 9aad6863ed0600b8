import WhereClause.Calendar.Instant

/-!
# Time zones

What clocks show somewhere: an offset from UTC with a short name, and the instants at which it
changed or will change.  `Zone.localize` reads an instant off the clocks of a zone.

Which zones there are, and under which names, is left open: it is what a `ZoneTable` says.
-/

set_option autoImplicit false

namespace WhereClause.Calendar

/-- An offset from UTC. -/
structure Offset where
  /-- How many seconds clocks are ahead of UTC. -/
  seconds : Int
  /-- The short name of the time the clocks show. -/
  abbreviation : String
deriving DecidableEq

/-- The history of the clocks of a place. -/
structure Zone where
  name : String
  /-- The offset before the first change. -/
  initial : Offset
  /-- The instants, in seconds since 1970, from which on another offset applies, in order. -/
  changes : List (Int × Offset)
deriving DecidableEq

/-- The clocks that show UTC. -/
def Zone.utc : Zone where
  name := "UTC"
  initial := ⟨0, "UTC"⟩
  changes := []

/-- The zones that can be asked for by name. -/
class ZoneTable where
  /-- The zone of a name. -/
  find? : String → Option Zone

/-- The offset at an instant: the last one that came into force by then. -/
def Zone.offsetAt (z : Zone) (seconds : Int) : Offset :=
  (z.changes.takeWhile fun c ↦ c.1 ≤ seconds).getLast?.elim z.initial (·.2)

/-- What the clocks of a zone show at an instant. -/
structure Reading where
  /-- The day, counted from the first of January of the year 1. -/
  day : Int
  /-- The second of the day. -/
  second : Nat
  /-- The instant itself. -/
  instant : Instant
  /-- The offset in force. -/
  offset : Offset
deriving DecidableEq

/-- What the clocks of a zone show at an instant. -/
def Zone.localize (z : Zone) (t : Instant) : Reading :=
  let offset := z.offsetAt t.seconds
  let wall := t.seconds + offset.seconds
  ⟨wall / 86400 + epochDay, (wall % 86400).toNat, t, offset⟩

end WhereClause.Calendar
