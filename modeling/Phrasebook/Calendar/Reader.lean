import Phrasebook.Calendar.Moment
import Phrasebook.Decimal.Digits
import Phrasebook.Text.Blank

/-!
# Recognizing moments

A text is a moment if it is a timestamp with an offset, a day with a time, or a day. Timestamps have
fields of fixed width; in the other two every number may be shorter and may follow white space.
-/

namespace Phrasebook.Moment

/-- At least one and at most `most` digits at the front. -/
def readDigits (most : Nat) (s : Text) : Option (Text × Text) :=
  match (s.take most).takeWhile Char.isDigit with
  | [] => none
  | row => some (row, s.drop row.length)

/-- A number of at most `most` digits, after any white space. -/
def readNumber (most : Nat) (s : Text) : Option (Nat × Text) :=
  (readDigits most (Text.trimStart s)).map fun (row, s) => (valueOf row, s)

def readFixed (width : Nat) (s : Text) : Option (Nat × Text) :=
  (readDigits width s).bind fun (row, s) =>
    if row.length = width then some (valueOf row, s) else none

def readChar (c : Char) : Text → Option Text
  | [] => none
  | d :: s => if d = c then some s else none

/-- The nanoseconds of a fraction, after its point; digits beyond the ninth are dropped. -/
def readNanoseconds (s : Text) : Option (Nat × Text) :=
  (readDigits 9 s).map fun (row, s) =>
    (valueOf row * 10 ^ (9 - row.length), s.dropWhile Char.isDigit)

/-- The nanoseconds of a fraction, if one follows. -/
def readFraction : Text → Option (Nat × Text)
  | '.' :: s => readNanoseconds s
  | s => some (0, s)

/-- The time of these parts; second 60 is a leap second. -/
def time? (hour minute second nanosecond : Nat) : Option TimeOfDay :=
  if h : hour < 24 ∧ minute < 60 ∧ second ≤ 60 ∧ nanosecond < 1000000000 then
    if hs : second < 60 then
      some ⟨⟨hour, h.1⟩, ⟨minute, h.2.1⟩, ⟨second, hs⟩, ⟨nanosecond, by omega⟩⟩
    else some ⟨⟨hour, h.1⟩, ⟨minute, h.2.1⟩, ⟨59, by decide⟩, ⟨nanosecond + 1000000000, by omega⟩⟩
  else none

/-! ## Timestamps -/

theorem natAbs_offset_lt {hours minutes : Nat}
    (h : minutes < 60 ∧ hours * 60 + minutes < 1440) :
    ((hours : Int) * 60 + minutes).natAbs < 1440 := by
  omega

theorem natAbs_neg_offset_lt {hours minutes : Nat}
    (h : minutes < 60 ∧ hours * 60 + minutes < 1440) :
    (-((hours : Int) * 60 + minutes)).natAbs < 1440 := by
  rw [Int.natAbs_neg]
  exact natAbs_offset_lt h

/-- An offset: the letter `Z`, or a sign, hours and minutes. -/
def readOffset (s : Text) : Option (Offset × Text) :=
  match s with
  | [] => none
  | c :: s =>
    if c = 'Z' ∨ c = 'z' then some (.zero, s)
    else if c = '+' ∨ c = '-' ∨ c = '\u2212' then do
      let (hours, s) ← readFixed 2 s
      let s ← readChar ':' s
      let (minutes, s) ← readFixed 2 s
      if h : minutes < 60 ∧ hours * 60 + minutes < 1440 then
        let east : Int := hours * 60 + minutes
        if c = '+' then some (⟨east, natAbs_offset_lt h⟩, s)
        else some (⟨-east, natAbs_neg_offset_lt h⟩, s)
      else none
    else none

/-- A day, the letter `T` or a space, a time and an offset, in fields of fixed width. -/
def timestamp? (s : Text) : Option Moment := do
  let (year, s) ← readFixed 4 s
  let s ← readChar '-' s
  let (month, s) ← readFixed 2 s
  let s ← readChar '-' s
  let (day, s) ← readFixed 2 s
  let s ← (readChar 'T' s <|> readChar 't' s <|> readChar ' ' s)
  let (hour, s) ← readFixed 2 s
  let s ← readChar ':' s
  let (minute, s) ← readFixed 2 s
  let s ← readChar ':' s
  let (second, s) ← readFixed 2 s
  let (nanosecond, s) ← readFraction s
  let (offset, s) ← readOffset s
  if s.isEmpty then
    let date ← Date.ofNumbers? year month day
    let time ← time? hour minute second nanosecond
    some ⟨date, time, some offset⟩
  else none

/-! ## Days and times without an offset -/

def isYear (year : Int) : Bool := -262143 ≤ year && year ≤ 262142

/-- A year: four digits at most, or a sign and any number of digits. -/
def readYear (s : Text) : Option (Int × Text) :=
  match Text.trimStart s with
  | '-' :: s => (readDigits s.length s).map fun (row, s) => (-(valueOf row : Int), s)
  | '+' :: s => (readDigits s.length s).map fun (row, s) => ((valueOf row : Int), s)
  | s => (readDigits 4 s).map fun (row, s) => ((valueOf row : Int), s)

def readDate (s : Text) : Option (Date × Text) := do
  let (year, s) ← readYear s
  let s ← readChar '-' s
  let (month, s) ← readNumber 2 s
  let s ← readChar '-' s
  let (day, s) ← readNumber 2 s
  let date ← Date.ofNumbers? year month day
  if isYear year then some (date, s) else none

def readClock (s : Text) : Option ((Nat × Nat) × Text) := do
  let (hour, s) ← readNumber 2 s
  let s ← readChar ':' s
  let (minute, s) ← readNumber 2 s
  some ((hour, minute), s)

/-- Hours, minutes, seconds and perhaps a fraction, to the end of the text. -/
def fullTime? (s : Text) : Option TimeOfDay := do
  let ((hour, minute), s) ← readClock s
  let s ← readChar ':' s
  let (second, s) ← readNumber 2 s
  let (nanosecond, s) ← readFraction s
  if s.isEmpty then time? hour minute second nanosecond else none

/-- Hours and minutes, to the end of the text. -/
def shortTime? (s : Text) : Option TimeOfDay := do
  let ((hour, minute), s) ← readClock s
  if s.isEmpty then time? hour minute 0 0 else none

/-- The time behind a day: `T` and a time, a time after any white space, or nothing. -/
def timeBehindDate? (s : Text) : Option TimeOfDay :=
  (readChar 'T' s).bind fullTime? <|> fullTime? (Text.trimStart s) <|>
    (readChar 'T' s).bind shortTime? <|> if s.isEmpty then some .midnight else none

def parse? (s : Text) : Option Moment :=
  timestamp? s <|> do
    let (date, s) ← readDate s
    let time ← timeBehindDate? s
    some ⟨date, time, none⟩

end Phrasebook.Moment
