import Phrasebook.Culture.Tables
import Phrasebook.Locale.Basic
import Phrasebook.Text.Numeric

/-!
# The culture of a locale

The chain of a locale is searched for a built-in culture. A locale without one is written like the
invariant culture, except for the two separators, which are read back from the way the number
1234567.8 is written there. How it is written is known to a library only.
-/

namespace Phrasebook

/-- What a library knows of locales: how 1234567.8 is written in the one with this tag. Of a tag
that the library does not take it knows nothing. -/
class LocaleData where
  sample? : (tag : Text) → Option Text

namespace Culture

/-- Marks that steer the direction of writing. -/
def isDirectionMark (c : Char) : Bool :=
  c == '\u200e' || c == '\u200f' || c == '\u061c'

def trimMarks (s : Text) : Text :=
  Text.dropEndWhile isDirectionMark (s.dropWhile isDirectionMark)

/-- What stands between the numeric characters of a text, direction marks at the ends of each piece
and pieces without anything else left out. -/
def separatorRuns (sample : Text) : List Text :=
  ((Text.splitBy Text.isNumeric sample).map trimMarks).filter (!·.isEmpty)

/-- The decimal and the group separator of a written number that shows both. -/
def separatorsIn (sample : Text) : Option (Text × Text) :=
  match separatorRuns sample with
  | group :: next :: rest => some ((next :: rest).getLast (by simp), group)
  | _ => none

/-- The separators of a locale that has no built-in culture. -/
def separators? [LocaleData] (locale : Locale) : Option (Text × Text) :=
  (LocaleData.sample? locale.tag).bind separatorsIn

/-- The culture of a locale, where `separators` knows the separators of the locales without a
built-in culture. -/
def ofLocaleWith (separators : Locale → Option (Text × Text)) (locale : Locale) : Culture :=
  match locale.chain.findSome? fun level => builtin? level.tag with
  | some culture => culture
  | none =>
    if locale.isInvariant then invariant
    else
      match separators locale with
      | some (decimal, group) =>
        { invariant with
          name := locale.tag
          decimalSeparator := decimal
          groupSeparator := group }
      | none => invariant

def ofLocale [LocaleData] (locale : Locale) : Culture := ofLocaleWith separators? locale

end Culture

end Phrasebook
