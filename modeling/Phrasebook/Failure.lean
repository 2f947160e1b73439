import Phrasebook.Config.Basic
import Phrasebook.Files.Basic
import Phrasebook.Renderer

/-!
# Failures

Everything that can keep a message from being rendered, and how it is reported.
-/

namespace Phrasebook

/-- Why there is no message. -/
inductive Failure
  | refused (r : Refusal)
  /-- A template cannot be read. -/
  | unreadableTemplate (fault : Script.Fault)
  /-- A template cannot be rendered for a model. -/
  | failedTemplate (fault : Script.Fault)
  | file (fault : FileFault)
  | json (fault : Json.Fault)
  | yaml
  /-- No file holds the template, from the first path that was tried to the last. -/
  | noTemplate (name : Text) (locale : Locale) (first last : Text)
  | noConfig (folder : Text)
  | invalidConfig (flaw : Config.Flaw)

namespace Failure

def ofRenderError : RenderError → Failure
  | .refused r => refused r
  | .unreadable fault => unreadableTemplate fault
  | .failed fault => failedTemplate fault

def ofUnreadable : Model.Unreadable → Failure
  | .json fault => json fault
  | .refused r => refused r

def ofLocale (e : Locale.Invalid) : Failure := refused (.locale e)

def jsonReason : Json.Fault → Text
  | .ended => "the text ends too early"
  | .malformed => "the text is not JSON"
  | .shape => "the value is of another shape"

def scriptReason : Script.Fault → Text
  | .malformed => "syntax error"
  | .badEscape => "bad string escape"
  | .unknownFilter => "unknown filter"
  | .unknownTest => "unknown test"
  | .unknownFunction => "unknown function"
  | .unknownMethod => "unknown method"
  | .unknownBlock => "unknown block"
  | .invalidOperation => "invalid operation"
  | .unformattable e => e.message
  | .undefinedValue => "undefined value"
  | .missingArgument => "missing argument"
  | .tooManyArguments => "too many arguments"
  | .cannotUnpack => "cannot unpack"
  | .templateNotFound => "template not found"
  | .endless => "formatting does not end"

def message : Failure → Text
  | refused r => r.message
  | unreadableTemplate fault => "Template syntax error: " ++ scriptReason fault
  | failedTemplate fault => "Failed to render. Original error: " ++ scriptReason fault
  | file fault => "IO error: " ++ fault.reason ++ "."
  | json fault => "Failed to parse JSON. Original error: " ++ jsonReason fault
  | yaml => "Failed to parse YAML. Original error: the text is not a configuration"
  | noTemplate name locale first last =>
    "Template '" ++ name ++ "' not found for locale '" ++ locale.display ++ "'. Tried '" ++
      first ++ "' through '" ++ last ++ "'."
  | noConfig folder =>
    "No configuration file found in '" ++ folder ++ "'. Tried: " ++ 
      Text.join ", " Config.fileNames ++ "."
  | invalidConfig flaw => "Configuration validation failed: " ++ flaw.reason ++ "."

end Failure

end Phrasebook
