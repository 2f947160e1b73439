import Phrasebook.Failure

/-!
# Locating templates

The template of a name is looked for along the chain of a locale, so that the most specific file
that is there is used.
-/

namespace Phrasebook

/-- Where templates are: in files with a suffix, below a root. -/
structure Locator where
  root : Text
  suffix : Text
deriving DecidableEq, Repr

namespace Locator

def standardSuffix : Text := ".template"

/-- The name of the file that holds a template for one level of the chain. -/
def fileName (locator : Locator) (name : Text) : Locale → Text
  | .invariant => name ++ locator.suffix
  | .tagged id => name ++ '.' :: (id.text ++ locator.suffix)

/-- The paths at which a template is looked for, the most specific first. -/
def candidates (locator : Locator) (name : Text) (locale : Locale) : List Text :=
  locale.chain.map fun level => Files.joinPath locator.root (locator.fileName name level)

def locate (locator : Locator) (files : Files) (name : Text) (locale : Locale) :
    Except Failure Files.Found :=
  if name.isEmpty then .error (.refused .emptyName)
  else
    let paths := locator.candidates name locale
    match files.firstFound paths with
    | .ok (some found) => .ok found
    | .ok none =>
      .error (.noTemplate name locale (paths.head?.getD []) (paths.getLast?.getD []))
    | .error fault => .error (.file fault)

end Locator

end Phrasebook
