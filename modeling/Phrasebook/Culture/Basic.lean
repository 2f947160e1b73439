import Phrasebook.Text.Basic

/-!
# Cultures

The separators, patterns and names by which numbers and dates are written.
-/

namespace Phrasebook

/-- Month and day names of a language. Days begin with Sunday. -/
structure CalendarNames where
  months : Vector Text 12
  abbreviatedMonths : Vector Text 12
  days : Vector Text 7
  abbreviatedDays : Vector Text 7
deriving DecidableEq

/-- A culture. In the percent and currency patterns an `n` stands for the magnitude; the patterns of
dates and times are custom date patterns. -/
structure Culture where
  name : Text
  decimalSeparator : Text
  groupSeparator : Text
  percent : Text
  currency : Text
  dateSeparator : Text
  timeSeparator : Text
  shortDate : Text
  longDate : Text
  shortTime : Text
  longTime : Text
  monthDay : Text
  yearMonth : Text
  am : Text
  pm : Text
  names : CalendarNames
deriving DecidableEq

end Phrasebook
