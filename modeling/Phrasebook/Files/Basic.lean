import Phrasebook.Text.Basic

/-!
# Files

What is found at every path is a value, so that a look-up is a function of the files.
-/

namespace Phrasebook

/-- Why a file is not read or changed. -/
inductive FileFault
  | notFound
  | isFolder
  | notFolder
  | notText
  | nulInPath
  | nameTooLong
  | alreadyThere
  | noAccess
deriving DecidableEq, Repr

def FileFault.reason : FileFault → Text
  | notFound => "no such file or directory"
  | isFolder => "is a directory"
  | notFolder => "not a directory"
  | notText => "stream did not contain valid UTF-8"
  | nulInPath => "file name contained an unexpected NUL byte"
  | nameTooLong => "file name too long"
  | alreadyThere => "file exists"
  | noAccess => "the file cannot be read"

/-- The files that can be read. -/
structure Files where
  /-- The text of the file at a path. -/
  read : Text → Except FileFault Text
  /-- Whether there is a file or folder at a path. -/
  isPresent : Text → Bool

namespace Files

/-- The files of which it is known what was found at their paths. All others are absent. -/
def ofFindings (findings : List (Text × Except FileFault Text)) : Files :=
  let finding (path : Text) : Except FileFault Text :=
    match findings.find? (·.1 = path) with
    | some (_, finding) => finding
    | none => .error .notFound
  { read := finding
    isPresent := fun path =>
      match finding path with
      | .ok _ | .error .isFolder | .error .notText | .error .noAccess => true
      | .error _ => false }

/-- The path of `part` below `base`. A part that begins at the root stands on its own. -/
def joinPath (base part : Text) : Text :=
  if part.head? = some '/' ∨ base = [] then part
  else if base.getLast? = some '/' then base ++ part
  else base ++ '/' :: part

/-- A file that was found, with its whole text. -/
structure Found where
  path : Text
  text : Text
deriving DecidableEq, Repr

/-- The first of the paths that is not absent. Nothing is read behind it. -/
def firstFound (files : Files) : List Text → Except FileFault (Option Found)
  | [] => .ok none
  | path :: paths =>
    match files.read path with
    | .ok text => .ok (some ⟨path, text⟩)
    | .error .notFound => files.firstFound paths
    | .error fault => .error fault

@[simp] theorem joinPath_nil (part : Text) : joinPath [] part = part := by
  simp [joinPath]

end Files

end Phrasebook
