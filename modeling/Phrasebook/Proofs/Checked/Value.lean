import Phrasebook.Format.Value
import Phrasebook.Proofs.Checked.Date
import Phrasebook.Proofs.Checked.Number

/-!
# Values, formatted by position

Formatting with each access checked comes to the answer that formatting gives. So no access is out
of range, whichever value and format meet in whichever culture.
-/

namespace Phrasebook.Checked

def formatIn (culture : Culture) (format : Text) :
    Json → Checked (Option (Except FormatFault Text))
  | .integer i => formatNumber culture format (.integer i.val)
  | .float x => formatNumber culture format (.float (.finite x))
  | .string s =>
    match Moment.parse? s with
    | some m => some <$> formatMoment culture m format
    | none => .ok (some (.ok s))
  | value => .ok (some (.ok value.display))

/-- Formats a value in the culture of a locale. -/
def formatValue [LocaleData] (value : Json) (format : Text) (locale : Locale) :
    Checked (Option (Except FormatError Text)) :=
  if format.isEmpty then .ok (some (.ok value.display))
  else
    (fun answer => answer.map (Except.mapError (FormatError.mk format))) <$>
      formatIn (Culture.ofLocale locale) format value

theorem formatIn_eq_ok (culture : Culture) (format : Text) (value : Json) :
    formatIn culture format value = .ok (value.formatIn culture format) := by
  cases value with
  | integer i => rw [formatIn, Json.formatIn, formatNumber_eq_ok]
  | float x => rw [formatIn, Json.formatIn, formatNumber_eq_ok]
  | string s =>
      rw [formatIn, Json.formatIn]
      cases Moment.parse? s with
      | none => rfl
      | some m =>
          dsimp only
          rw [formatMoment_eq_ok, map_ok]
  | _ => rfl

/-- No access leaves its range: the checked run of every value, format and locale ends, and with the
answer of the formatters. -/
theorem formatValue_eq_ok [LocaleData] (value : Json) (format : Text) (locale : Locale) :
    formatValue value format locale = .ok (value.format format locale) := by
  rw [formatValue, Json.format]
  split
  · rfl
  · rw [formatIn_eq_ok, map_ok]

end Phrasebook.Checked
