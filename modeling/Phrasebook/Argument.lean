import Phrasebook.Json.Printer
import Phrasebook.Locale.Basic

/-!
# Refused arguments
-/

namespace Phrasebook

/-- Why an argument is refused before any work is done. -/
inductive Refusal
  | emptyKey
  | notAnObject (value : Json)
  | locale (e : Locale.Invalid)
  | emptyTemplate
  | emptyName
  | unusableDelimiter (c : Char)
  | repeatedDelimiter (c : Char)

namespace Refusal

def tagReason : LanguageTag.Fault → Text
  | .language => "The given language subtag is invalid"
  | .subtag => "Invalid subtag"

def reason : Refusal → Text
  | emptyKey => "model keys must not be empty"
  | notAnObject value => "a model must be a JSON object, got '" ++ value.text ++ "'"
  | locale e =>
    '\'' :: e.tag ++ "' is not a valid locale: Parser error: " ++ tagReason e.fault
  | emptyTemplate => "template text must not be empty"
  | emptyName => "template name must not be empty"
  | unusableDelimiter c => '\'' :: c :: "' cannot be used in placeholder syntax"
  | repeatedDelimiter c => '\'' :: c :: "' is used twice in placeholder syntax"

def message (r : Refusal) : Text := "Invalid argument: " ++ r.reason ++ "."

end Refusal

end Phrasebook
