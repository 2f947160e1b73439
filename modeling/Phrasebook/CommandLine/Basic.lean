import Phrasebook.Settings

/-!
# Commands
-/

namespace Phrasebook

/-- What every command that looks for a template is told. -/
structure Lookup where
  name : Text
  /-- The folder of the configuration file. -/
  configFolder : Text
  resourceRoot : Option Text
  locale : Option Text
  verbosity : Nat
deriving DecidableEq, Repr

/-- What rendering is told besides. -/
structure RenderOptions where
  engine : Option Engine
  defaultValue : Option Text
  /-- A model, or a dash for one that is read from the input. -/
  model : Option Text
  /-- The path of a file with a model. -/
  modelFile : Option Text
deriving DecidableEq, Repr

inductive Command
  /-- Render a template. -/
  | render (lookup : Lookup) (options : RenderOptions)
  /-- Find the file of a template. -/
  | locate (lookup : Lookup)
deriving DecidableEq, Repr

namespace Command

def lookup : Command → Lookup
  | render lookup _ => lookup
  | locate lookup => lookup

end Command

def Lookup.overrides (lookup : Lookup) : Overrides :=
  { resourceRoot := lookup.resourceRoot, locale := lookup.locale }

def RenderOptions.overrides (options : RenderOptions) (lookup : Lookup) : Overrides :=
  { lookup.overrides with engine := options.engine, defaultValue := options.defaultValue }

end Phrasebook
