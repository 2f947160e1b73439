import Phrasebook.Argument
import Phrasebook.Json.Reader

/-!
# Models

A model holds the named values that a template can use, in the order in which the names came.
-/

namespace Phrasebook

/-- Named values in insertion order. -/
structure Model where
  entries : List (Text × Json)

namespace Model

def empty : Model := ⟨[]⟩

instance : Inhabited Model := ⟨empty⟩

/-- Replaces the value under a key, or puts the entry at the end. -/
def put (key : Text) (value : Json) : List (Text × Json) → List (Text × Json)
  | [] => [(key, value)]
  | (k, v) :: entries =>
    if k = key then (k, value) :: entries else (k, v) :: put key value entries

/-- Stores a value under a key. A key that is there keeps its place. -/
def insert (m : Model) (key : Text) (value : Json) : Except Refusal Model :=
  if key.isEmpty then .error .emptyKey else .ok ⟨put key value m.entries⟩

def get? (m : Model) (key : Text) : Option Json := Json.field? key m.entries

def contains (m : Model) (key : Text) : Bool := (m.get? key).isSome

def keys (m : Model) : List Text := m.entries.map Prod.fst

def size (m : Model) : Nat := m.entries.length

/-- The model as a JSON object, its keys in the order of the model. -/
def toJson (m : Model) : Json := .object m.entries

def insertAll (m : Model) : List (Text × Json) → Except Refusal Model
  | [] => .ok m
  | (key, value) :: fields =>
    match m.insert key value with
    | .ok m => m.insertAll fields
    | .error e => .error e

/-- The model with the fields of an object; no other value is a model. -/
def ofJson : Json → Except Refusal Model
  | .object fields => empty.insertAll fields
  | value => .error (.notAnObject value)

inductive Unreadable
  | json (fault : Json.Fault)
  | refused (r : Refusal)

/-- The model that a text holds; blank text holds the empty one. -/
def parse (s : Text) : Except Unreadable Model :=
  if (Text.trim s).isEmpty then .ok empty
  else
    match Json.parse s with
    | .ok value => (ofJson value).mapError .refused
    | .error fault => .error (.json fault)

end Model

end Phrasebook
