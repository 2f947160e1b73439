import Phrasebook.Text.Blank

/-!
# Locales

A locale is a language tag in canonical form, or the invariant locale, which has none. Tags that
differ in case, in `-` against `_` or in surrounding white space denote the same locale.
-/

namespace Phrasebook

/-- The subtags of a language tag. A tag without language is undetermined. -/
structure LanguageTag where
  language : Option Text
  script : Option Text
  region : Option Text
  variants : List Text
deriving DecidableEq, Repr

inductive Locale
  | invariant
  | tagged (tag : LanguageTag)
deriving DecidableEq, Repr

instance : Inhabited Locale := ⟨.invariant⟩

namespace LanguageTag

def undetermined : Text := "und"

/-- The first letter in upper case and all others in lower case. -/
def titleCase : Text → Text
  | [] => []
  | c :: s => c.toUpper :: s.map Char.toLower

def isLanguage (s : Text) : Bool :=
  s.all Char.isAlpha && (s.length == 2 || s.length == 3 || (5 ≤ s.length && s.length ≤ 8))

def isScript (s : Text) : Bool := s.length == 4 && s.all Char.isAlpha

def isRegion (s : Text) : Bool :=
  (s.length == 2 && s.all Char.isAlpha) || (s.length == 3 && s.all Char.isDigit)

/-- Whether a character has an ASCII code other than zero. -/
def isAscii (c : Char) : Bool := 0 < c.toNat && c.toNat < 128

/-- What the library that reads tags is assumed to take for a variant: four to eight letters and
digits, or a digit and three ASCII characters of any kind. So of four characters that are not all
letters and digits the first one is a digit. -/
def isVariant (s : Text) : Bool :=
  (4 ≤ s.length && s.length ≤ 8 && s.all Char.isAlphanum) ||
    (s.length == 4 && s.all isAscii && (s.take 1).any Char.isDigit)

/-- Puts a variant in its place in the order of variants, unless it is there already. -/
def insertVariant (v : Text) : List Text → List Text
  | [] => [v]
  | w :: ws =>
    match v.compare w with
    | .lt => v :: w :: ws
    | .eq => w :: ws
    | .gt => w :: insertVariant v ws

/-- The subtag at the front, if it is of the kind `p`, and the subtags that remain. -/
def takeSubtag (p : Text → Bool) (canonical : Text → Text) :
    List Text → Option Text × List Text
  | [] => (none, [])
  | s :: subtags => if p s then (some (canonical s), subtags) else (none, s :: subtags)

inductive Fault
  | language
  | subtag
deriving DecidableEq, Repr

/-- A tag from its subtags: a language, then perhaps a script, perhaps a region, and variants. -/
def ofSubtags : List Text → Except Fault LanguageTag
  | [] => .error .language
  | language :: subtags =>
    if isLanguage language then
      let name := language.map Char.toLower
      let (script, subtags) := takeSubtag isScript titleCase subtags
      let (region, variants) := takeSubtag isRegion (·.map Char.toUpper) subtags
      if variants.all isVariant then
        .ok {
          language := if name = undetermined then none else some name
          script := script
          region := region
          variants := variants.foldl (fun vs v => insertVariant (v.map Char.toLower) vs) [] }
      else .error .subtag
    else .error .language

/-- The subtags in canonical order. -/
def subtags (tag : LanguageTag) : List Text :=
  tag.language.getD undetermined :: (tag.script.toList ++ tag.region.toList ++ tag.variants)

def text (tag : LanguageTag) : Text := Text.join "-" tag.subtags

def empty : LanguageTag := ⟨none, none, none, []⟩

end LanguageTag

namespace Locale

structure Invalid where
  tag : Text
  fault : LanguageTag.Fault
deriving DecidableEq, Repr

/-- Reads a tag. Blank text means the invariant locale, and so does the undetermined language alone.
-/
def parse (s : Text) : Except Invalid Locale :=
  match Text.trim s with
  | [] => .ok .invariant
  | tag =>
    match LanguageTag.ofSubtags (Text.splitBy (fun c => c == '-' || c == '_') tag) with
    | .ok id => .ok (if id = .empty then .invariant else .tagged id)
    | .error fault => .error ⟨tag, fault⟩

def isInvariant : Locale → Bool
  | .invariant => true
  | .tagged _ => false

/-- The canonical tag; empty for the invariant locale. -/
def tag : Locale → Text
  | .invariant => []
  | .tagged id => id.text

def display : Locale → Text
  | .invariant => "invariant"
  | .tagged id => id.text

/-- The locale whose tag lacks the last subtag. -/
def parent? : Locale → Option Locale
  | .invariant => none
  | .tagged id =>
    match (parse (Text.join "-" id.subtags.dropLast)) with
    | .ok parent => some parent
    | .error _ => some .invariant

/-- The parent, its parent, and so on, at most `count` locales. -/
def ancestors : (count : Nat) → Locale → List Locale
  | 0, _ => []
  | count + 1, locale =>
    match locale.parent? with
    | none => []
    | some parent => parent :: ancestors count parent

/-- The locale and all its ancestors, the most specific first. -/
def chain (locale : Locale) : List Locale :=
  locale :: ancestors locale.tag.length locale

end Locale

end Phrasebook
