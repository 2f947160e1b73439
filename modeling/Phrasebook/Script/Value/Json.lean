import Phrasebook.Json.Printer
import Phrasebook.Script.Value.Text

/-!
# Values as JSON

Nothing becomes null, and so does a number that is not finite.
-/

namespace Phrasebook.Script

namespace Value

def jsonKey? : Value → Option Text
  | string s _ => some s
  | bool b => some (if b then "true" else "false")
  | integer i => some (integerText i)
  | float (.finite x) => some (x.text Json.floatStyle)
  | _ => Option.none

mutual

/-- The JSON value of a value, if its integers have at most 64 bits. -/
def toJson? : Value → Option Json
  | undefined | none => some .null
  | bool b => some (.bool b)
  | integer i => (Json.Integer.ofInt? i).map .integer
  | float (.finite x) => some (.float x)
  | float _ => some .null
  | string s _ => some (.string s)
  | list items => (jsonItems? items).map .array
  | stream items => (jsonItems? items).map .array
  | map entries => (jsonFields? [] entries).map .object
  | record _ fields => some (.object fields)
  | group key items => do
    let key ← toJson? key
    let items ← jsonItems? items
    return .array [key, .array items]
  | v@(loop _) | v@(routine _ _) | v@(builtin _) => some (.string v.text)

def jsonItems? : List Value → Option (List Json)
  | [] => some []
  | item :: items => do return (← toJson? item) :: (← jsonItems? items)

/-- The fields of a map, put after other fields. -/
def jsonFields? (fields : List (Text × Json)) : List (Value × Value) → Option (List (Text × Json))
  | [] => some fields
  | (key, value) :: entries => do
    let value ← toJson? value
    jsonFields? (Json.putField (← jsonKey? key) value fields) entries

end

end Value

end Phrasebook.Script
