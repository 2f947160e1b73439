/-!
# Dates of the Gregorian calendar

The calendar is extended to all years before and after its time. Year 0 precedes year 1.
-/

namespace Phrasebook

namespace Calendar

/-- Whether February has 29 days. -/
def isLeap (year : Int) : Bool :=
  year % 4 == 0 && (year % 100 != 0 || year % 400 == 0)

/-- The days of a month; January is month 0. -/
def daysInMonth (year : Int) (month : Fin 12) : Nat :=
  match month with
  | 0 | 2 | 4 | 6 | 7 | 9 | 11 => 31
  | 1 => if isLeap year then 29 else 28
  | _ => 30

theorem daysInMonth_pos (year : Int) (month : Fin 12) : 0 < daysInMonth year month := by
  unfold daysInMonth
  split <;> first | decide | (split <;> decide)

end Calendar

/-- A day. January is month 0, the first day of a month is day 1. -/
structure Date where
  year : Int
  month : Fin 12
  day : Nat
  day_pos : 0 < day
  day_le : day ≤ Calendar.daysInMonth year month
deriving DecidableEq

namespace Date

open Calendar

/-- The day of a year, a month counted from 1 and a day of the month, if there is such a day. -/
def ofNumbers? (year : Int) (month day : Nat) : Option Date :=
  if hm : 0 < month ∧ month ≤ 12 then
    let m : Fin 12 := ⟨month - 1, by omega⟩
    if hd : 0 < day ∧ day ≤ daysInMonth year m then some ⟨year, m, day, hd.1, hd.2⟩ else none
  else none

def firstOf (year : Int) (month : Fin 12) : Date :=
  ⟨year, month, 1, by decide, daysInMonth_pos year month⟩

def lastOf (year : Int) (month : Fin 12) : Date :=
  ⟨year, month, daysInMonth year month, daysInMonth_pos year month, Nat.le_refl _⟩

def next (d : Date) : Date :=
  if h : d.day < daysInMonth d.year d.month then ⟨d.year, d.month, d.day + 1, by omega, h⟩
  else if d.month = 11 then firstOf (d.year + 1) 0
  else firstOf d.year (d.month + 1)

def previous (d : Date) : Date :=
  if h : 1 < d.day then ⟨d.year, d.month, d.day - 1, by omega, by have := d.day_le; omega⟩
  else if d.month = 0 then lastOf (d.year - 1) 11
  else lastOf d.year (d.month - 1)

/-- The days between the first day of year 1 and the first day of a year. -/
def daysBeforeYear (year : Int) : Int :=
  365 * (year - 1) + (year - 1) / 4 - (year - 1) / 100 + (year - 1) / 400

def daysBeforeMonth (year : Int) (month : Fin 12) : Nat :=
  ((List.finRange 12).take month).foldr (fun month days => daysInMonth year month + days) 0

/-- The day of the week; Sunday is 0. -/
def weekday (d : Date) : Fin 7 :=
  let days := daysBeforeYear d.year + daysBeforeMonth d.year d.month + d.day
  ⟨(days % 7).toNat, by omega⟩

end Date

end Phrasebook
