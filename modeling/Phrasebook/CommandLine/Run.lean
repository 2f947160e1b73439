import Phrasebook.CommandLine.Basic
import Phrasebook.Culture.Samples

/-!
# Running commands
-/

namespace Phrasebook

/-- What commands read: files, and an input that may be no text. -/
structure Surroundings where
  files : Files
  input : Except FileFault Text

namespace Surroundings

def parseModel (s : Text) : Except Failure Model := (Model.parse s).mapError .ofUnreadable

/-- The model that is given: a dash stands for the input, a model on the command line comes before
one in a file, and without either the model is empty. -/
def loadModel (around : Surroundings) (inline file : Option Text) : Except Failure Model :=
  match inline, file with
  | some s, _ =>
    if s = ['-'] then
      match around.input with
      | .ok s => parseModel s
      | .error fault => .error (.file fault)
    else parseModel s
  | none, some path =>
    match around.files.read path with
    | .ok s => parseModel s
    | .error fault => .error (.file fault)
  | none, none => .ok .empty

end Surroundings

namespace Command

def settings (files : Files) : Command → Except Failure Settings
  | render lookup options =>
    Settings.load files lookup.configFolder (options.overrides lookup)
  | locate lookup => Settings.load files lookup.configFolder lookup.overrides

/-- The paths that a command reads apart from those of its template. -/
def ownPaths : Command → List Text
  | render lookup options => Config.filePaths lookup.configFolder ++ options.modelFile.toList
  | locate lookup => Config.filePaths lookup.configFolder

def templatePaths (files : Files) (command : Command) : List Text :=
  match command.settings files with
  | .ok settings => settings.locator.candidates command.lookup.name settings.locale
  | .error _ => []

def readsInput : Command → Bool
  | render _ options => options.model = some ['-']
  | locate _ => false

/-- The message of a template, if rendering it ends. -/
def runRender [LocaleData] (around : Surroundings) (lookup : Lookup) (options : RenderOptions) :
    Option (Except Failure Text) :=
  match (render lookup options).settings around.files,
    around.loadModel options.model options.modelFile with
  | .ok settings, .ok model => settings.provider.message around.files lookup.name model
  | .error e, _ => some (.error e)
  | .ok _, .error e => some (.error e)

def runLocate (around : Surroundings) (lookup : Lookup) : Except Failure Text := do
  let settings ← (locate lookup).settings around.files
  return (← settings.locator.locate around.files lookup.name settings.locale).path

/-- What a command prints, if it ends. -/
def run [LocaleData] (around : Surroundings) : Command → Option (Except Failure Text)
  | render lookup options => runRender around lookup options
  | locate lookup => some (runLocate around lookup)

end Command

end Phrasebook
