import Phrasebook.Culture.Lookup

/-!
# Written samples of some locales

What the program itself knows of locales. No law of the library depends on it.
-/

namespace Phrasebook.LocaleData

/-- How 1234567.8 is written in the locales that write it in another way than most. -/
def samples : List (Text × List Text) := [
  ("1.234.567,8", ["it", "nl", "pt", "da", "ro", "tr", "el", "vi", "id", "ca", "eu", "hr", "sr",
    "sl", "is", "mk"]),
  ("1\u00a0234\u00a0567,8", ["pt-PT", "pt-AO", "ru", "uk", "pl", "cs", "sk", "sv", "nb", "fi",
    "hu", "gl", "bg", "et", "lv", "lt", "af", "hy", "ka", "kk", "sq"]),
  ("1\u202f234\u202f567,8", ["rm"]),
  ("1'234'567.8", ["it-CH"]),
  ("١٬٢٣٤٬٥٦٧٫٨", ["ar-EG", "fa", "ps"])]

/-- How 1234567.8 is written in most locales. -/
def commonSample : Text := "1,234,567.8"

/-- How 1234567.8 is written in the nearest locale of the chain that has its own way. -/
def nearestSample (locale : Locale) : Text :=
  (locale.chain.findSome? fun level =>
    (samples.find? fun (_, tags) => tags.contains level.tag).map Prod.fst).getD commonSample

/-- Whether a tag is well formed in the narrow sense: a language of at most three letters, and a
variant of four characters is a digit and three letters or digits. -/
def isWellFormed (tag : LanguageTag) : Bool :=
  (tag.language.getD []).length ≤ 3 &&
    tag.variants.all fun v =>
      v.all Char.isAlphanum && (v.length != 4 || (v.take 1).any Char.isDigit)

instance : LocaleData where
  sample? tag :=
    match Locale.parse tag with
    | .ok (.tagged id) => if isWellFormed id then some (nearestSample (.tagged id)) else none
    | _ => none

end Phrasebook.LocaleData
