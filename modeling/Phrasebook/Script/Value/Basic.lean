import Phrasebook.Json.Basic
import Phrasebook.Decimal.Digits
import Phrasebook.Script.Fault
import Phrasebook.Script.Tree

/-!
# Values of a script

Values of a model keep the path that leads to them, so that a property that an object does not
have can be named in the text.
-/

namespace Phrasebook.Script

/-- A part of a template with a name, parameters and defaults for the last of them. -/
structure Routine where
  name : Text
  params : List Text
  defaults : List Expr
  body : List Stmt

/-- The functions that every template knows. -/
inductive Builtin
  | range
  | dict
deriving DecidableEq, Repr

/-- A value. Loops and routines name the scope that they live in by its height. -/
inductive Value
  | undefined
  | none
  | bool (b : Bool)
  | integer (i : Int)
  | float (x : Binary64)
  /-- A text, and whether it is known to be safe in markup. -/
  | string (s : Text) (safe : Bool)
  | list (items : List Value)
  /-- Items that are not stored but can be gone through. -/
  | stream (items : List Value)
  /-- Entries in the order of their keys. -/
  | map (entries : List (Value × Value))
  /-- An object of the model at a path. -/
  | record (path : Text) (fields : List (Text × Json))
  /-- Items with a common key. -/
  | group (key : Value) (items : List Value)
  | loop (height : Nat)
  | routine (r : Routine) (height : Nat)
  | builtin (f : Builtin)

namespace Value

instance : Inhabited Value := ⟨undefined⟩

def ofText (s : Text) : Value := string s false

/-! ## Values of the model -/

/-- The text in place of a property that the object at `path` does not have. -/
def missing (name path : Text) : Text :=
  "[Missing property '" ++ name ++ "' on '" ++ path ++ "']"

/-- The path of a part of the value at `path`. -/
def subpath (path name : Text) : Text := path ++ '.' :: name

mutual

/-- The value of the model at `path`. -/
def ofJson (path : Text) : Json → Value
  | .null => none
  | .bool b => bool b
  | .integer i => integer i.val
  | .float x => float (.finite x)
  | .string s => ofText s
  | .array items => list (ofItems path 0 items)
  | .object fields => record path fields

/-- The items from position `i` on of the array at `path`. -/
def ofItems (path : Text) (i : Nat) : List Json → List Value
  | [] => []
  | item :: items => ofJson (subpath path (digits i)) item :: ofItems path (i + 1) items

end

/-- A property of the object at `path`. One that it does not have is a text that says so. -/
def property (path : Text) (fields : List (Text × Json)) (name : Text) : Value :=
  match Json.field? name fields with
  | some value => ofJson (subpath path name) value
  | Option.none => ofText (missing name path)

/-- The value that a model has under a name. A model, unlike its objects, does not answer for a name
that it does not have. -/
def declared? (entries : List (Text × Json)) (name : Text) : Option Value :=
  (Json.field? name entries).map (ofJson name)

/-! ## Kinds -/

/-- What a value counts as, in the order in which kinds come. -/
inductive Kind
  | undefined
  | none
  | bool
  | number
  | string
  | sequence
  | map
  | stream
  | other
deriving DecidableEq, Repr

def kind : Value → Kind
  | undefined => .undefined
  | none => .none
  | bool _ => .bool
  | integer _ | float _ => .number
  | string _ _ => .string
  | list _ | group _ _ => .sequence
  | map _ | record _ _ => .map
  | stream _ => .stream
  | loop _ | routine _ _ | builtin _ => .other

/-- Whether a value counts as true: not nothing, not zero, not empty. -/
def isTrue : Value → Bool
  | undefined | none => false
  | bool b => b
  | integer i => i != 0
  | float x => !x.isZero
  | string s _ => !s.isEmpty
  | list items => !items.isEmpty
  | stream items => !items.isEmpty
  | map entries => !entries.isEmpty
  | record _ fields => !fields.isEmpty
  | group _ _ | loop _ | routine _ _ | builtin _ => true

end Value

end Phrasebook.Script
