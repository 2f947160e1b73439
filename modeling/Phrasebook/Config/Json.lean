import Phrasebook.Config.Basic
import Phrasebook.Json.Reader

/-!
# Configurations in JSON

A file is read from its beginning to its end, so that the first fault is the one that counts. The
version may stand anywhere in an object, but it is checked where it stands; the fields are checked
behind the end of the object. An array lists the version and the fields in their order.
-/

namespace Phrasebook.Config

def Entry.ofJson : Json → Entry
  | .string s => text s
  | .null => nothing
  | .object [(name, .null)] | .object [(name, .object [])] => choice name
  | _ => other

/-- Reads the version, which has to be known. -/
def readVersion (s : Text) : Except Json.Fault Text := do
  match Json.skipSpace s with
  | '[' :: _ | '\x7b' :: _ => throw .shape
  | s =>
    let (value, s) ← Json.readValue 0 s
    match value with
    | .string name => if name = version then return s else throw .shape
    | _ => throw .shape

/-- What the members of an object hold: whether there is a version, and the fields. -/
structure Members where
  hasVersion : Bool
  fields : List (Field × Entry)

/-- Reads the value of a member; members that are not known are passed over. -/
def readMember (key s : Text) (members : Members) : Except Json.Fault (Members × Text) := do
  if key = versionKey then
    if members.hasVersion then throw .shape
    let s ← readVersion (← Json.readColon s)
    return ({ members with hasVersion := true }, s)
  else
    let (value, s) ← Json.readValue (Json.depthLimit - 1) (← Json.readColon s)
    match Field.ofName? key with
    | some field =>
      return ({ members with fields := members.fields ++ [(field, .ofJson value)] }, s)
    | none => return (members, s)

/-- Reads the members of an object that has at least one, with at most `size` members. -/
def readMembers : (size : Nat) → Members → Text → Except Json.Fault (Members × Text)
  | 0, _, _ => .error .ended
  | size + 1, members, s => do
    let (key, s) ← Json.readName s
    let (members, s) ← readMember key s members
    let (more, s) ← Json.readNext '\x7d' s
    if more then readMembers size members s else return (members, s)

/-- Reads the fields behind the version in an array, at most `size` of them. -/
def readEntries : (size : Nat) → Text → Except Json.Fault (List Entry × Text)
  | 0, _ => .error .ended
  | size + 1, s => do
    let (more, s) ← Json.readNext ']' s
    if more then do
      if s.head? = some ']' then throw .malformed
      let (value, s) ← Json.readValue (Json.depthLimit - 1) s
      let (entries, s) ← readEntries size s
      return (.ofJson value :: entries, s)
    else return ([], s)

/-- The configuration, if there is one; no other shape is read. -/
def orShape : Option Config → Except Json.Fault Config
  | some config => .ok config
  | none => .error .shape

/-- Reads a configuration and returns what follows it. -/
def readJson (s : Text) : Except Json.Fault (Config × Text) := do
  match Json.skipSpace s with
  | '\x7b' :: s =>
    match Json.skipSpace s with
    | '\x7d' :: _ => throw .shape
    | s =>
      let (members, s) ← readMembers (s.length + 1) ⟨false, []⟩ s
      if !members.hasVersion then throw .shape
      return (← orShape (ofFields? members.fields), s)
  | '[' :: s =>
    match Json.skipSpace s with
    | ']' :: _ => throw .shape
    | s =>
      let s ← readVersion s
      let (entries, s) ← readEntries (s.length + 1) s
      return (← orShape (ofEntries? entries), s)
  | s =>
    let _ ← Json.readValue Json.depthLimit s
    throw .shape

def ofJsonText (s : Text) : Except Json.Fault Config := do
  let (config, s) ← readJson s
  match Json.skipSpace s with
  | [] => return config
  | _ => throw .malformed

end Phrasebook.Config
