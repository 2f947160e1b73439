import Phrasebook.Calendar.Format
import Phrasebook.Calendar.Reader
import Phrasebook.Culture.Lookup
import Phrasebook.Json.Printer
import Phrasebook.Number.Format

/-!
# Formatting a value

Numbers take number formats, strings that hold a moment take date formats. All other values are
shown as they are, and so is every value without a format.
-/

namespace Phrasebook.Json

/-- The text of a value without a format: nothing for null, a string as it stands, and JSON text for
everything else. -/
def display : Json → Text
  | .null => []
  | .string s => s
  | value => value.text

/-- The text of a value with a format that is not empty. There is no answer if the search for the
exponent of a number does not end. -/
def formatIn (culture : Culture) (format : Text) : Json → Option (Except FormatFault Text)
  | .integer i => Number.format culture format (.integer i.val)
  | .float x => Number.format culture format (.float (.finite x))
  | .string s =>
    match Moment.parse? s with
    | some m => some (m.format culture format)
    | none => some (.ok s)
  | value => some (.ok value.display)

/-- The text of a value with a format, in the culture of a locale. -/
def format [LocaleData] (value : Json) (format : Text) (locale : Locale) :
    Option (Except FormatError Text) :=
  if format.isEmpty then some (.ok value.display)
  else (value.formatIn (Culture.ofLocale locale) format).map
    (Except.mapError (FormatError.mk format))

end Phrasebook.Json
