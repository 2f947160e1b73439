import Phrasebook.Engine
import Phrasebook.Placeholder.Context
import Phrasebook.Script.Template

/-!
# Renderers

A renderer prepares templates for one of the engines; a template that is prepared can be rendered
for any number of models.
-/

namespace Phrasebook

inductive RenderError
  | refused (r : Refusal)
  /-- The template cannot be read. -/
  | unreadable (fault : Script.Fault)
  /-- The template cannot be rendered for a model. -/
  | failed (fault : Script.Fault)

inductive Renderer
  | placeholder (context : PlaceholderContext)
  | script (locale : Locale)

/-- A template that a renderer has prepared. -/
inductive Template
  | placeholder (t : PlaceholderTemplate)
  | script (t : ScriptTemplate)

/-- Renders a template. There is no answer if formatting one of its values does not end. -/
def Template.render [LocaleData] (t : Template) (model : Model) :
    Option (Except RenderError Text) :=
  match t with
  | placeholder t => (t.render model).map (Except.mapError .refused)
  | script t => (t.render model).map (Except.mapError .failed)

namespace Renderer

/-- The renderer for an engine. Scripts have no use for a default value. -/
def ofEngine (engine : Engine) (locale : Locale) (defaultValue : Option Text) : Renderer :=
  match engine with
  | .placeholder => placeholder ((PlaceholderContext.new locale).setDefaultValue defaultValue)
  | .script => script locale

def engine : Renderer → Engine
  | placeholder _ => .placeholder
  | script _ => .script

def locale : Renderer → Locale
  | placeholder context => context.locale
  | script locale => locale

/-- Prepares a template, which must not be empty. -/
def compile (r : Renderer) (template : Text) : Except RenderError Template :=
  match r with
  | placeholder context => ((context.compile template).map .placeholder).mapError .refused
  | script locale =>
    if template.isEmpty then .error (.refused .emptyTemplate)
    else ((ScriptTemplate.compile locale template).map .script).mapError .unreadable

def render [LocaleData] (r : Renderer) (template : Text) (model : Model) :
    Option (Except RenderError Text) :=
  match r.compile template with
  | .ok t => t.render model
  | .error e => some (.error e)

@[simp] theorem engine_ofEngine (engine : Engine) (locale : Locale) (defaultValue : Option Text) :
    (ofEngine engine locale defaultValue).engine = engine := by
  cases engine <;> rfl

@[simp] theorem locale_ofEngine (engine : Engine) (locale : Locale) (defaultValue : Option Text) :
    (ofEngine engine locale defaultValue).locale = locale := by
  cases engine <;> rfl

end Renderer

end Phrasebook
