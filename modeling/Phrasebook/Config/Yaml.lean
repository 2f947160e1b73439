import Phrasebook.Config.Basic
import Phrasebook.Yaml.Reader

/-!
# Configurations in YAML

A mapping names the fields, or counts them from zero. A sequence lists the version and the fields
in their order.
-/

namespace Phrasebook.Config

def Entry.ofYaml : Yaml → Entry
  | .text s => text s
  | .nothing => nothing
  | .mapping [(.text name, .nothing)] | .mapping [(.text name, .mapping [])] => choice name
  | _ => other

/-- The field that a key names, if it is the key of a known field. Other keys than text and
naturals are not read. -/
def fieldOfKey? : Yaml → Option (Option Field)
  | .text name => some (Field.ofName? name)
  | .natural n => some Field.all[n]?
  | _ => none

def isVersionKey : Yaml → Bool
  | .text name => name = versionKey
  | _ => false

def isVersion : Yaml → Bool
  | .text name => name = version
  | _ => false

/-- The known fields of a mapping. -/
def fieldsOf? : List (Yaml × Yaml) → Option (List (Field × Entry))
  | [] => some []
  | (key, value) :: fields => do
    let field ← fieldOfKey? key
    let known ← fieldsOf? fields
    match field with
    | some field => return (field, .ofYaml value) :: known
    | none => return known

def ofYaml? : Yaml → Option Config
  | .mapping fields =>
    match fields.partition (isVersionKey ·.1) with
    | ([(_, value)], fields) =>
      if isVersion value then (fieldsOf? fields).bind ofFields? else none
    | _ => none
  | .sequence (value :: entries) =>
    if isVersion value then ofEntries? (entries.map .ofYaml) else none
  | _ => none

def ofYamlText? (s : Text) : Option Config := (Yaml.parse s).bind ofYaml?

end Phrasebook.Config
