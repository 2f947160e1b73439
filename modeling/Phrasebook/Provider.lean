import Phrasebook.Locator

/-!
# Messages from template files
-/

namespace Phrasebook

/-- Renders the templates of a locator. Templates are looked for in the locale of the provider. -/
structure Provider where
  renderer : Renderer
  locator : Locator
  locale : Locale

namespace Provider

variable [LocaleData]

/-- The message of a template that is looked for in a locale. There is no answer if formatting one
of its values does not end. -/
def messageFor (p : Provider) (files : Files) (name : Text) (locale : Locale) (model : Model) :
    Option (Except Failure Text) :=
  match p.locator.locate files name locale with
  | .ok found => (p.renderer.render found.text model).map (Except.mapError .ofRenderError)
  | .error e => some (.error e)

def message (p : Provider) (files : Files) (name : Text) (model : Model) :
    Option (Except Failure Text) :=
  p.messageFor files name p.locale model

end Provider

end Phrasebook
