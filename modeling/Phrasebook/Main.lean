import Phrasebook.CommandLine.Run
import Phrasebook.CommandLine.Usage

/-!
# The program

The files that a command can look at are read first; the command itself is a function of them.
-/

open Phrasebook

/-- Why reading a file ended in an error. -/
def faultOf : IO.Error → FileFault
  | .noFileOrDirectory .. => .notFound
  | .inappropriateType _ 20 _ => .notFolder
  | .inappropriateType .. => .isFolder
  | .invalidArgument _ 36 _ => .nameTooLong
  | _ => .noAccess

def decoded (bytes : ByteArray) : Except FileFault Text :=
  match Text.ofBytes? bytes with
  | some text => .ok text
  | none => .error .notText

def probe (path : Text) : IO (Except FileFault Text) := do
  match ← (IO.FS.readBinFile (String.ofList path)).toBaseIO with
  | .ok bytes => return decoded bytes
  | .error e => return .error (faultOf e)

def survey (paths : List Text) : IO (List (Text × Except FileFault Text)) :=
  paths.mapM fun path => return (path, ← probe path)

/-- All that a command reads. -/
def surroundingsOf (command : Command) : IO Surroundings := do
  let own ← survey command.ownPaths
  let templates ← survey (command.templatePaths (.ofFindings own))
  let input ←
    if command.readsInput then decoded <$> (← IO.getStdin).readBinToEnd else pure (.ok [])
  return ⟨.ofFindings (own ++ templates), input⟩

def main (words : List String) : IO UInt32 := do
  match CommandLine.parse (words.map String.toList) with
  | .error fault =>
    let report := fault.report
    let line := String.ofList report.text
    if report.isError then IO.eprintln line else IO.println line
    return report.exitCode
  | .ok command =>
    match command.run (← surroundingsOf command) with
    | some (.ok text) =>
      IO.println (String.ofList text)
      return 0
    | some (.error e) =>
      IO.eprintln (String.ofList e.message)
      return 1
    | none =>
      IO.eprintln "Formatting a number of the message does not end."
      return 1
