import Phrasebook.Files.Basic

/-!
# Trees of files

A tree keeps its files and folders by the names that lead to them from its root. Paths are taken
from the root, and nothing is found outside the tree.
-/

namespace Phrasebook

/-- What stands at a place of a tree. -/
inductive FileTree.Node
  | file (bytes : ByteArray)
  | folder

/-- Files and folders by their places. A place is the list of the names that lead to it, the last
name first; the root is a folder. -/
structure FileTree where
  nodes : List (List Text × FileTree.Node)

namespace FileTree

def empty : FileTree := ⟨[]⟩

def node? (tree : FileTree) (place : List Text) : Option Node :=
  if place = [] then some .folder
  else (tree.nodes.find? (·.1 = place)).map (·.2)

def erase (tree : FileTree) (place : List Text) : FileTree :=
  ⟨tree.nodes.filter (·.1 ≠ place)⟩

def put (tree : FileTree) (place : List Text) (node : Node) : FileTree :=
  ⟨(place, node) :: (tree.erase place).nodes⟩

/-- How many bytes a name may have. -/
def nameLimit : Nat := 255

/-- How many bytes a path may have. -/
def pathLimit : Nat := 4095

def parts (path : Text) : Except FileFault (List Text) :=
  if '\x00' ∈ path then .error .nulInPath
  else if path.isEmpty ∨ path.head? = some '/' then .error .notFound
  else if pathLimit < Text.byteSize path then .error .nameTooLong
  else .ok (Text.splitOn '/' path)

/-- The place to which names lead from a place. There has to be a folder before every name. -/
def walk (tree : FileTree) : (place : List Text) → List Text → Except FileFault (List Text)
  | place, [] => .ok place
  | place, name :: names =>
    match tree.node? place with
    | none => .error .notFound
    | some (.file _) => .error .notFolder
    | some .folder =>
      if name = [] ∨ name = ['.'] then tree.walk place names
      else if name = ['.', '.'] then
        match place with
        | [] => .error .notFound
        | _ :: place => tree.walk place names
      else if nameLimit < Text.byteSize name then .error .nameTooLong
      else tree.walk (name :: place) names

/-- The place of a path, and what stands there. -/
def find (tree : FileTree) (path : Text) : Except FileFault (List Text × Node) := do
  let place ← tree.walk [] (← parts path)
  match tree.node? place with
  | some node => return (place, node)
  | none => throw .notFound

def read (tree : FileTree) (path : Text) : Except FileFault Text := do
  match ← tree.find path with
  | (_, .folder) => throw .isFolder
  | (_, .file bytes) =>
    match Text.ofBytes? bytes with
    | some text => return text
    | none => throw .notText

def isPresent (tree : FileTree) (path : Text) : Bool := (tree.find path).isOk

def files (tree : FileTree) : Files := ⟨tree.read, tree.isPresent⟩

/-- Makes a folder of every name on the way, and returns the place of the last. -/
def makeFolders (tree : FileTree) :
    (place : List Text) → List Text → Except FileFault (FileTree × List Text)
  | place, [] => .ok (tree, place)
  | place, name :: names =>
    if name = [] ∨ name = ['.'] then tree.makeFolders place names
    else if name = ['.', '.'] then tree.makeFolders place.tail names
    else if nameLimit < Text.byteSize name then .error .nameTooLong
    else
      match tree.node? (name :: place) with
      | some .folder => tree.makeFolders (name :: place) names
      | some (.file _) => .error (if names = [] then .alreadyThere else .notFolder)
      | none => (tree.put (name :: place) .folder).makeFolders (name :: place) names

/-- Makes the folder at a path and all folders above it. -/
def makeFolder (tree : FileTree) (path : Text) : Except FileFault FileTree :=
  if path = [] then .ok tree else do return (← tree.makeFolders [] (← parts path)).1

/-- Stores a file at a path, with all folders above it. -/
def write (tree : FileTree) (path : Text) (bytes : ByteArray) : Except FileFault FileTree := do
  let names ← parts path
  let (tree, folder) ← tree.makeFolders [] names.dropLast
  let name := names.getLast?.getD []
  if name = [] ∨ name = ['.'] ∨ name = ['.', '.'] then throw .isFolder
  if nameLimit < Text.byteSize name then throw .nameTooLong
  match tree.node? (name :: folder) with
  | some .folder => throw .isFolder
  | _ => return tree.put (name :: folder) (.file bytes)

def remove (tree : FileTree) (path : Text) : Except FileFault FileTree := do
  match ← tree.find path with
  | (_, .folder) => throw .isFolder
  | (place, .file _) => return tree.erase place

end FileTree

end Phrasebook
