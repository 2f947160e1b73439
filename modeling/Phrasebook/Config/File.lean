import Phrasebook.Config.Json
import Phrasebook.Config.Yaml
import Phrasebook.Failure

/-!
# Configuration files

The first configuration file that is there decides; what stands in it never leads to another file.
-/

namespace Phrasebook.Config

inductive Form
  | json
  | yaml
deriving DecidableEq, Repr

def Form.ofFileName (name : Text) : Form :=
  if name = "letterpress.json".toList then json else yaml

def parse (form : Form) (s : Text) : Except Failure Config :=
  match form with
  | .json => (ofJsonText s).mapError .json
  | .yaml =>
    match ofYamlText? s with
    | some config => .ok config
    | none => .error .yaml

def filePaths (folder : Text) : List Text := fileNames.map (Files.joinPath folder)

def fileName? (files : Files) (folder : Text) : Option Text :=
  fileNames.find? fun name => files.isPresent (Files.joinPath folder name)

/-- The configuration in a folder, valid or not. -/
def load (files : Files) (folder : Text) : Except Failure Config :=
  match fileName? files folder with
  | some name =>
    match files.read (Files.joinPath folder name) with
    | .ok s => parse (.ofFileName name) s
    | .error fault => .error (.file fault)
  | none => .error (.noConfig folder)

def validated (config : Config) : Except Failure Config :=
  match config.flaw? with
  | some flaw => .error (.invalidConfig flaw)
  | none => .ok config

/-- The valid configuration in a folder, or the standard one where there is no file. -/
def loadOrStandard (files : Files) (folder : Text) : Except Failure Config :=
  match load files folder with
  | .ok config => config.validated
  | .error (.noConfig _) => standard.validated
  | .error e => .error e

end Phrasebook.Config
