import Phrasebook.Culture.Basic

/-!
# Built-in cultures
-/

namespace Phrasebook

namespace CalendarNames

def english : CalendarNames where
  months := #v[
    "January", "February", "March", "April", "May", "June", "July", "August", "September",
    "October", "November", "December"]
  abbreviatedMonths := #v[
    "Jan", "Feb", "Mar", "Apr", "May", "Jun", "Jul", "Aug", "Sep", "Oct", "Nov", "Dec"]
  days := #v[
    "Sunday", "Monday", "Tuesday", "Wednesday", "Thursday", "Friday", "Saturday"]
  abbreviatedDays := #v[
    "Sun", "Mon", "Tue", "Wed", "Thu", "Fri", "Sat"]

def german : CalendarNames where
  months := #v[
    "Januar", "Februar", "März", "April", "Mai", "Juni", "Juli", "August", "September",
    "Oktober", "November", "Dezember"]
  abbreviatedMonths := #v[
    "Jan", "Feb", "Mär", "Apr", "Mai", "Jun", "Jul", "Aug", "Sep", "Okt", "Nov", "Dez"]
  days := #v[
    "Sonntag", "Montag", "Dienstag", "Mittwoch", "Donnerstag", "Freitag", "Samstag"]
  abbreviatedDays := #v[
    "So", "Mo", "Di", "Mi", "Do", "Fr", "Sa"]

def french : CalendarNames where
  months := #v[
    "janvier", "février", "mars", "avril", "mai", "juin", "juillet", "août", "septembre",
    "octobre", "novembre", "décembre"]
  abbreviatedMonths := #v[
    "janv.", "févr.", "mars", "avr.", "mai", "juin", "juil.", "août", "sept.", "oct.", "nov.",
    "déc."]
  days := #v[
    "dimanche", "lundi", "mardi", "mercredi", "jeudi", "vendredi", "samedi"]
  abbreviatedDays := #v[
    "dim.", "lun.", "mar.", "mer.", "jeu.", "ven.", "sam."]

def spanish : CalendarNames where
  months := #v[
    "enero", "febrero", "marzo", "abril", "mayo", "junio", "julio", "agosto", "septiembre",
    "octubre", "noviembre", "diciembre"]
  abbreviatedMonths := #v[
    "ene", "feb", "mar", "abr", "may", "jun", "jul", "ago", "sept", "oct", "nov", "dic"]
  days := #v[
    "domingo", "lunes", "martes", "miércoles", "jueves", "viernes", "sábado"]
  abbreviatedDays := #v[
    "dom", "lun", "mar", "mié", "jue", "vie", "sáb"]

end CalendarNames

namespace Culture

/-- The culture of no particular place. -/
def invariant : Culture where
  name := ""
  decimalSeparator := "."
  groupSeparator := ","
  percent := "n %"
  currency := "¤n"
  dateSeparator := "/"
  timeSeparator := ":"
  shortDate := "MM/dd/yyyy"
  longDate := "dddd, dd MMMM yyyy"
  shortTime := "HH:mm"
  longTime := "HH:mm:ss"
  monthDay := "MMMM dd"
  yearMonth := "yyyy MMMM"
  am := "AM"
  pm := "PM"
  names := .english

def enUS : Culture where
  name := "en-US"
  decimalSeparator := "."
  groupSeparator := ","
  percent := "n%"
  currency := "$n"
  dateSeparator := "/"
  timeSeparator := ":"
  shortDate := "M/d/yyyy"
  longDate := "dddd, MMMM d, yyyy"
  shortTime := "h:mm tt"
  longTime := "h:mm:ss tt"
  monthDay := "MMMM d"
  yearMonth := "MMMM yyyy"
  am := "AM"
  pm := "PM"
  names := .english

def enGB : Culture where
  name := "en-GB"
  decimalSeparator := "."
  groupSeparator := ","
  percent := "n%"
  currency := "£n"
  dateSeparator := "/"
  timeSeparator := ":"
  shortDate := "dd/MM/yyyy"
  longDate := "dddd, d MMMM yyyy"
  shortTime := "HH:mm"
  longTime := "HH:mm:ss"
  monthDay := "d MMMM"
  yearMonth := "MMMM yyyy"
  am := "am"
  pm := "pm"
  names := .english

def de : Culture where
  name := "de"
  decimalSeparator := ","
  groupSeparator := "."
  percent := "n\u00a0%"
  currency := "n\u00a0€"
  dateSeparator := "."
  timeSeparator := ":"
  shortDate := "dd.MM.yyyy"
  longDate := "dddd, d. MMMM yyyy"
  shortTime := "HH:mm"
  longTime := "HH:mm:ss"
  monthDay := "d. MMMM"
  yearMonth := "MMMM yyyy"
  am := "AM"
  pm := "PM"
  names := .german

def deCH : Culture where
  name := "de-CH"
  decimalSeparator := "."
  groupSeparator := "’"
  percent := "n%"
  currency := "CHF\u00a0n"
  dateSeparator := "."
  timeSeparator := ":"
  shortDate := "dd.MM.yyyy"
  longDate := "dddd, d. MMMM yyyy"
  shortTime := "HH:mm"
  longTime := "HH:mm:ss"
  monthDay := "d. MMMM"
  yearMonth := "MMMM yyyy"
  am := "AM"
  pm := "PM"
  names := .german

def fr : Culture where
  name := "fr"
  decimalSeparator := ","
  groupSeparator := "\u202f"
  percent := "n\u00a0%"
  currency := "n\u00a0€"
  dateSeparator := "/"
  timeSeparator := ":"
  shortDate := "dd/MM/yyyy"
  longDate := "dddd d MMMM yyyy"
  shortTime := "HH:mm"
  longTime := "HH:mm:ss"
  monthDay := "d MMMM"
  yearMonth := "MMMM yyyy"
  am := "AM"
  pm := "PM"
  names := .french

def es : Culture where
  name := "es"
  decimalSeparator := ","
  groupSeparator := "."
  percent := "n\u00a0%"
  currency := "n\u00a0€"
  dateSeparator := "/"
  timeSeparator := ":"
  shortDate := "dd/MM/yyyy"
  longDate := "dddd, d 'de' MMMM 'de' yyyy"
  shortTime := "H:mm"
  longTime := "H:mm:ss"
  monthDay := "d 'de' MMMM"
  yearMonth := "MMMM 'de' yyyy"
  am := "a. m."
  pm := "p. m."
  names := .spanish

/-- The built-in cultures, each with the tag that it is looked up by. -/
def builtins : List (String × Culture) :=
  [("en", enUS), ("en-US", enUS), ("en-GB", enGB), ("de", de), ("de-CH", deCH), ("fr", fr),
    ("es", es)]

def builtin? (tag : Text) : Option Culture :=
  builtins.findSome? fun (known, culture) =>
    if String.toList known = tag then some culture else none

theorem exists_mem_builtins {tag : Text} {culture : Culture} (h : builtin? tag = some culture) :
    ∃ known, (known, culture) ∈ builtins ∧ String.toList known = tag := by
  unfold builtin? at h
  obtain ⟨⟨known, other⟩, hmem, hfound⟩ := List.exists_of_findSome?_eq_some h
  dsimp only at hfound
  split at hfound
  · next htag =>
      obtain rfl := Option.some.inj hfound
      exact ⟨known, hmem, htag⟩
  · cases hfound

end Culture

end Phrasebook
