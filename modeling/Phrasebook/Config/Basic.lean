import Phrasebook.Argument
import Phrasebook.Engine

/-!
# Configurations

A configuration is filled from the fields of a configuration file. A field that is not given keeps
its standard value.
-/

namespace Phrasebook

/-- What a configuration file lays down. The root of the templates is below the folder of the
file. -/
structure Config where
  resourceRoot : Text := "templates"
  templateSuffix : Text := ".template"
  /-- A language tag; empty for the invariant locale. -/
  locale : Text := []
  defaultValue : Option Text := none
  engine : Engine := .standard
deriving DecidableEq, Repr

namespace Config

/-- The configuration where there is no file. -/
def standard : Config := {}

/-- The names of a configuration file, the preferred one first. -/
def fileNames : List Text := ["letterpress.json", "letterpress.yaml", "letterpress.yml"]

/-! ## Validity -/

inductive Flaw
  | emptySuffix
  | unusableSuffix
  | emptyRoot
  | locale (tag : Text) (e : Locale.Invalid)
deriving DecidableEq, Repr

def Flaw.reason : Flaw → Text
  | emptySuffix => "template_suffix must not be empty"
  | unusableSuffix =>
    "template_suffix must start with '.' and have at least 1 character after it"
  | emptyRoot => "resource_root must not be empty"
  | locale tag e => "locale '" ++ tag ++ "' is invalid: " ++ (Refusal.locale e).message

/-- Whether a suffix is a dot and something after it. -/
def isSuffix : Text → Bool
  | '.' :: _ :: _ => true
  | _ => false

def flaw? (config : Config) : Option Flaw :=
  if config.templateSuffix = [] then some .emptySuffix
  else if !isSuffix config.templateSuffix then some .unusableSuffix
  else if config.resourceRoot = [] then some .emptyRoot
  else
    match Locale.parse config.locale with
    | .ok _ => none
    | .error e => some (.locale config.locale e)

/-! ## Fields -/

inductive Field
  | resourceRoot
  | templateSuffix
  | locale
  | defaultValue
  | engine
deriving DecidableEq, Repr

namespace Field

def all : List Field := [resourceRoot, templateSuffix, locale, defaultValue, engine]

def name : Field → Text
  | resourceRoot => "resource_root"
  | templateSuffix => "template_suffix"
  | locale => "locale"
  | defaultValue => "default_value"
  | engine => "engine"

def ofName? (s : Text) : Option Field := all.find? (·.name = s)

end Field

/-- What a file gives for a field. -/
inductive Entry
  | text (s : Text)
  | nothing
  /-- A name without a value, in an object or mapping of its own. -/
  | choice (name : Text)
  | other

/-- The configuration with one field filled in, if the field takes the entry. -/
def fill (config : Config) : Field → Entry → Option Config
  | .resourceRoot, .text s => some { config with resourceRoot := s }
  | .templateSuffix, .text s => some { config with templateSuffix := s }
  | .locale, .text s => some { config with locale := s }
  | .defaultValue, .text s => some { config with defaultValue := some s }
  | .defaultValue, .nothing => some { config with defaultValue := none }
  | .engine, .text s | .engine, .choice s =>
    (Engine.ofName? s).map fun engine => { config with engine := engine }
  | _, _ => none

/-- Fills in the fields one by one; none of them may be there twice, or among those given before. -/
def fillAll (config : Config) (given : List Field) : List (Field × Entry) → Option Config
  | [] => some config
  | (field, entry) :: fields =>
    if field ∈ given then none
    else
      match config.fill field entry with
      | some config => config.fillAll (field :: given) fields
      | none => none

def ofFields? (fields : List (Field × Entry)) : Option Config := standard.fillAll [] fields

/-- The configuration whose first fields are these entries. -/
def ofEntries? (entries : List Entry) : Option Config :=
  if entries.length ≤ Field.all.length then ofFields? (Field.all.zip entries) else none

/-- The key of the entry that names the version of a file. -/
def versionKey : Text := "schemaVersion"

def version : Text := "v1"

end Config

end Phrasebook
