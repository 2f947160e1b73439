import Phrasebook.Binary64.Basic
import Phrasebook.Text.Basic

/-!
# JSON values

The fields of an object read from text stand in the order of their keys, and no key stands twice.
-/

namespace Phrasebook

/-- The integers that keep their exact value: those of 64 bits, signed or unsigned. -/
structure Json.Integer where
  val : Int
  le_val : -2 ^ 63 ≤ val
  val_lt : val < 2 ^ 64
deriving DecidableEq

inductive Json
  | null
  | bool (b : Bool)
  | integer (i : Json.Integer)
  | float (x : Binary64.Finite)
  | string (s : Text)
  | array (items : List Json)
  | object (fields : List (Text × Json))

namespace Json

/-- The integer with this value, if it has at most 64 bits. -/
def Integer.ofInt? (i : Int) : Option Integer :=
  if h : -2 ^ 63 ≤ i ∧ i < 2 ^ 64 then some ⟨i, h.1, h.2⟩ else none

/-- The value of the first field with this key. -/
def field? (key : Text) : List (Text × Json) → Option Json
  | [] => none
  | (k, v) :: fields => if k = key then some v else field? key fields

/-- Puts a field in its place in the order of the keys. A field with the same key is replaced. -/
def putField (key : Text) (value : Json) : List (Text × Json) → List (Text × Json)
  | [] => [(key, value)]
  | (k, v) :: fields =>
    match key.compare k with
    | .lt => (key, value) :: (k, v) :: fields
    | .eq => (key, value) :: fields
    | .gt => (k, v) :: putField key value fields

def isNull : Json → Bool
  | .null => true
  | _ => false

end Json

end Phrasebook
