import Phrasebook.Format.Value
import Phrasebook.Model
import Phrasebook.Path
import Phrasebook.Placeholder.Scan

/-!
# Rendering placeholders

A context replaces every placeholder by the value it names. A placeholder that names no value, or
whose value does not take its format, is replaced by the default value, or left as it is when there
is none.
-/

namespace Phrasebook

/-- What placeholders are rendered with. The pattern is that of the delimiters. -/
structure PlaceholderContext where
  locale : Locale
  defaultValue : Option Text
  delimiters : Delimiters
  pattern : Delimiters.Pattern
deriving DecidableEq

namespace PlaceholderContext

variable [LocaleData]

/-- A context with the standard delimiters and no default value. -/
def new (locale : Locale) : PlaceholderContext :=
  ⟨locale, none, .standard, Delimiters.standard.pattern⟩

def setLocale (context : PlaceholderContext) (locale : Locale) : PlaceholderContext :=
  { context with locale := locale }

def setDefaultValue (context : PlaceholderContext) (value : Option Text) : PlaceholderContext :=
  { context with defaultValue := value }

def withDefaultValue (context : PlaceholderContext) (value : Text) : PlaceholderContext :=
  context.setDefaultValue (some value)

/-- The context with other delimiters, if they can be used. -/
def withDelimiters (context : PlaceholderContext) (d : Delimiters) :
    Except Refusal PlaceholderContext :=
  match d.refusal? with
  | some r => .error r
  | none => .ok { context with delimiters := d, pattern := d.pattern }

/-- The text of the value that a placeholder names, if it names one that takes its format. There is
no answer if formatting the value does not end. -/
def valueText (context : PlaceholderContext) (model : Model) (p : Placeholder) :
    Option (Option Text) :=
  match model.get? p.root with
  | none => some none
  | some root =>
    match root.resolve p.path with
    | .found value => (value.format p.format context.locale).map Except.toOption
    | .null | .noSuchProperty _ => some none

/-- The text in place of a placeholder that names no value: the default value, or the placeholder
itself. -/
def fallback (context : PlaceholderContext) (body : Text) : Text :=
  context.defaultValue.getD ((Segment.placeholder body).source context.pattern)

/-- The text that replaces the placeholder with this body. -/
def substitute (context : PlaceholderContext) (model : Model) (body : Text) : Option Text :=
  (context.valueText model (Placeholder.ofBody context.delimiters body)).map
    (·.getD (context.fallback body))

def segmentText (context : PlaceholderContext) (model : Model) : Segment → Option Text
  | .literal c => some [c]
  | .placeholder body => context.substitute model body

def text (context : PlaceholderContext) (model : Model) (template : Text) : Option Text :=
  ((segments context.pattern template).mapM (context.segmentText model)).map List.flatten

/-- Renders a template that is not empty. There is no answer if formatting one of its values does
not end. -/
def render (context : PlaceholderContext) (model : Model) (template : Text) :
    Option (Except Refusal Text) :=
  if template.isEmpty then some (.error .emptyTemplate)
  else (context.text model template).map .ok

end PlaceholderContext

/-- A template that is not empty, with the context to render it in. -/
structure PlaceholderTemplate where
  context : PlaceholderContext
  text : Text

def PlaceholderContext.compile (context : PlaceholderContext) (template : Text) :
    Except Refusal PlaceholderTemplate :=
  if template.isEmpty then .error .emptyTemplate else .ok ⟨context, template⟩

def PlaceholderTemplate.render [LocaleData] (t : PlaceholderTemplate) (model : Model) :
    Option (Except Refusal Text) :=
  t.context.render model t.text

end Phrasebook
