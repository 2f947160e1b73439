import Phrasebook.Model
import Phrasebook.Script.Evaluate
import Phrasebook.Script.Statement

/-!
# Script templates
-/

namespace Phrasebook

/-- A script template that has been read, and the locale whose formats it uses. -/
structure ScriptTemplate where
  locale : Locale
  statements : List Script.Stmt

namespace ScriptTemplate

def compile (locale : Locale) (template : Text) : Except Script.Fault ScriptTemplate :=
  (Script.statementsOf template).map (⟨locale, ·⟩)

/-- The text of a template for a model. There is no answer if formatting one of its values does not
end. -/
def render [LocaleData] (t : ScriptTemplate) (model : Model) : Option (Except Script.Fault Text) :=
  let setting : Script.Setting := ⟨t.locale, model.entries, Script.blocksIn t.statements⟩
  match Script.renderWith setting t.statements with
  | .error .endless => none
  | result => some result

end ScriptTemplate

end Phrasebook
