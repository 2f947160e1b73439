import Phrasebook.Calendar.Moment
import Phrasebook.Calendar.Pattern
import Phrasebook.Culture.Tables
import Phrasebook.Decimal.Digits
import Phrasebook.Format.Error
import Phrasebook.Text.Blank

/-!
# Formatting a moment
-/

namespace Phrasebook.Moment

open DatePattern (Piece)

/-- A number of at least `width` characters, a minus sign counted among them. -/
def paddedInteger (width : Nat) (i : Int) : Text :=
  if i < 0 then '-' :: paddedDigits (width - 1) i.natAbs else paddedDigits width i.natAbs

/-- One or two digits, or exactly two. -/
def twoDigits (padded : Bool) (n : Nat) : Text :=
  if padded then paddedDigits 2 n else digits n

/-- An offset: hours, hours of two digits, or hours and minutes of two digits each. -/
def offsetText (offset : Offset) (run : Nat) : Text :=
  let hours := offset.minutes.natAbs / 60
  let minutes := offset.minutes.natAbs % 60
  (if offset.minutes < 0 then '-' else '+') ::
    match run with
    | 1 => digits hours
    | 2 => paddedDigits 2 hours
    | _ => paddedDigits 2 hours ++ ':' :: paddedDigits 2 minutes

def maxFractionDigits : Nat := 7

/-- The first digits of the fraction of the second. -/
def fractionDigits (m : Moment) (run : Nat) : Text :=
  (paddedDigits 9 m.time.fractionOfSecond).take run

def dayText (culture : Culture) (d : Date) : (run : Nat) → Text
  | 1 => digits d.day
  | 2 => paddedDigits 2 d.day
  | 3 => culture.names.abbreviatedDays[d.weekday]
  | _ => culture.names.days[d.weekday]

def monthText (culture : Culture) (d : Date) : (run : Nat) → Text
  | 1 => digits (d.month.val + 1)
  | 2 => paddedDigits 2 (d.month.val + 1)
  | 3 => culture.names.abbreviatedMonths[d.month]
  | _ => culture.names.months[d.month]

/-- The last two digits of the year, with its sign, or the whole year. -/
def yearText (d : Date) : (run : Nat) → Text
  | 1 => integerText (d.year.tmod 100)
  | 2 => paddedInteger 2 (d.year.tmod 100)
  | run => paddedInteger run d.year

def designatorText (culture : Culture) (t : TimeOfDay) (run : Nat) : Text :=
  let designator := if t.isAfternoon then culture.pm else culture.am
  if run = 1 then designator.take 1 else designator

/-- The offset of a moment that has one; `Z` for universal time. -/
def zoneText : Option Offset → Text
  | none => []
  | some offset => if offset.minutes = 0 then "Z" else offsetText offset 3

def dropPoint (s : Text) : Text := if s.getLast? = some '.' then s.dropLast else s

/-- Writes one piece behind what is written so far. -/
def write (culture : Culture) (m : Moment) (written : Text) :
    Piece → Except FormatFault Text
  | .day run => .ok (written ++ dayText culture m.date run)
  | .month run => .ok (written ++ monthText culture m.date run)
  | .year run => .ok (written ++ yearText m.date run)
  | .clockHour padded => .ok (written ++ twoDigits padded m.time.clockHour)
  | .hour padded => .ok (written ++ twoDigits padded m.time.hour.val)
  | .minute padded => .ok (written ++ twoDigits padded m.time.minute.val)
  | .second padded => .ok (written ++ twoDigits padded m.time.second.val)
  | .fraction run =>
    if maxFractionDigits < run then .error .tooManyFractionDigits
    else .ok (written ++ m.fractionDigits run)
  | .trimmedFraction run =>
    if maxFractionDigits < run then .error .tooManyFractionDigits
    else
      match Text.dropEndWhile (· == '0') (m.fractionDigits run) with
      | [] => .ok (dropPoint written)
      | trimmed => .ok (written ++ trimmed)
  | .designator run => .ok (written ++ designatorText culture m.time run)
  | .offset run => .ok (written ++ offsetText (m.offset.getD .zero) run)
  | .zone => .ok (written ++ zoneText m.offset)
  | .era => .ok (written ++ "A.D.")
  | .timeSeparator => .ok (written ++ culture.timeSeparator)
  | .dateSeparator => .ok (written ++ culture.dateSeparator)
  | .literal s => .ok (written ++ s)

/-- Writes a moment with the pieces of a pattern behind what is written so far. -/
def writeAll (culture : Culture) (m : Moment) : (written : Text) → List Piece →
    Except FormatFault Text
  | written, [] => .ok written
  | written, p :: ps =>
    match m.write culture written p with
    | .ok written => m.writeAll culture written ps
    | .error fault => .error fault

def custom (culture : Culture) (m : Moment) (pattern : Text) : Except FormatFault Text :=
  m.writeAll culture [] (DatePattern.ofText pattern)

/-- The custom pattern that a letter stands for. -/
def standardPattern? (culture : Culture) : Char → Option Text
  | 'd' => some culture.shortDate
  | 'D' => some culture.longDate
  | 'f' => some (culture.longDate ++ " " ++ culture.shortTime)
  | 'F' => some (culture.longDate ++ " " ++ culture.longTime)
  | 'g' => some (culture.shortDate ++ " " ++ culture.shortTime)
  | 'G' => some (culture.shortDate ++ " " ++ culture.longTime)
  | 't' => some culture.shortTime
  | 'T' => some culture.longTime
  | 'M' | 'm' => some culture.monthDay
  | 'Y' | 'y' => some culture.yearMonth
  | 's' => some "yyyy'-'MM'-'dd'T'HH':'mm':'ss"
  | 'u' => some "yyyy'-'MM'-'dd HH':'mm':'ss'Z'"
  | 'O' | 'o' => some "yyyy'-'MM'-'dd'T'HH':'mm':'ss'.'fffffffK"
  | 'R' | 'r' => some "ddd, dd MMM yyyy HH':'mm':'ss 'GMT'"
  | _ => none

/-- The culture that a letter writes with: that of no particular place where the text is meant to be
read back. -/
def standardCulture (culture : Culture) (letter : Char) : Culture :=
  if letter ∈ ['R', 'r', 's', 'O', 'o'] then .invariant else culture

/-- The moment that a letter writes: `u` and `R` write universal time. -/
def standardMoment (m : Moment) (letter : Char) : Moment :=
  if letter ∈ ['u', 'R', 'r'] then m.toUtc else m

/-- Writes a moment. A format of one character is a standard one, all others are custom. -/
def format (culture : Culture) (m : Moment) (format : Text) : Except FormatFault Text :=
  match format with
  | [letter] =>
    match standardPattern? culture letter with
    | some pattern =>
      custom (standardCulture culture letter) (m.standardMoment letter) pattern
    | none => .error (.unknownDateLetter letter)
  | pattern => custom culture m pattern

end Phrasebook.Moment
