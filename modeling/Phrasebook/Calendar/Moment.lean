import Phrasebook.Calendar.Date

/-!
# Moments

A moment is a day and a time of day at some place, perhaps with the offset of that place from
universal time.
-/

namespace Phrasebook

/-- A time of day. In a leap second the nanoseconds run on from the end of second 59. -/
structure TimeOfDay where
  hour : Fin 24
  minute : Fin 60
  second : Fin 60
  nanosecond : Fin 2000000000
deriving DecidableEq, Repr

/-- An offset from universal time, in minutes east, of less than a day. -/
structure Offset where
  minutes : Int
  lt_day : minutes.natAbs < 1440
deriving DecidableEq, Repr

structure Moment where
  date : Date
  time : TimeOfDay
  offset : Option Offset
deriving DecidableEq

namespace TimeOfDay

def midnight : TimeOfDay := ⟨0, 0, 0, 0⟩

/-- The hour on a clock of twelve hours, from 1 to 12. -/
def clockHour (t : TimeOfDay) : Nat :=
  if t.hour.val % 12 = 0 then 12 else t.hour.val % 12

def isAfternoon (t : TimeOfDay) : Bool := decide (12 ≤ t.hour.val)

def fractionOfSecond (t : TimeOfDay) : Nat := t.nanosecond.val % 1000000000

end TimeOfDay

def Offset.zero : Offset := ⟨0, by decide⟩

namespace Moment

/-- The moment in universal time, which is what a moment without an offset is taken for. -/
def toUtc (m : Moment) : Moment :=
  let shift := (m.offset.getD .zero).minutes
  let minutes := (m.time.hour.val : Int) * 60 + m.time.minute.val - shift
  let date :=
    if minutes < 0 then m.date.previous else if 1440 ≤ minutes then m.date.next else m.date
  let inDay := (minutes % 1440).toNat
  { date := date
    time := { m.time with
      hour := ⟨inDay / 60 % 24, Nat.mod_lt _ (by decide)⟩
      minute := ⟨inDay % 60, Nat.mod_lt _ (by decide)⟩ }
    offset := some .zero }

end Moment

end Phrasebook
