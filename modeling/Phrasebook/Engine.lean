import Phrasebook.Text.Basic

/-!
# Engines
-/

namespace Phrasebook

/-- How templates are read: as text with placeholders, or as scripts. -/
inductive Engine
  | placeholder
  | script
deriving DecidableEq, Repr

namespace Engine

/-- The engine that is used when none is asked for. -/
def standard : Engine := placeholder

instance : Inhabited Engine := ⟨standard⟩

def name : Engine → Text
  | placeholder => "placeholder"
  | script => "minijinja"

def ofName? (s : Text) : Option Engine :=
  if s = placeholder.name then some placeholder
  else if s = script.name then some script
  else none

@[simp] theorem ofName?_name (e : Engine) : ofName? e.name = some e := by
  cases e <;> decide

end Engine

end Phrasebook
