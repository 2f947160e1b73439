import Phrasebook.Json.Basic
import Phrasebook.Decimal.Digits

/-!
# Paths into a value

A path names a property at every step, with a dot between two names.
-/

namespace Phrasebook

inductive Resolution
  /-- To a value other than null. -/
  | found (value : Json)
  /-- To null, or through null. -/
  | null
  /-- To a value without the property `name`. -/
  | noSuchProperty (name : Text)

namespace Json

/-- The index that a name denotes: digits after at most one plus sign, below `2 ^ 64`. -/
def index? (name : Text) : Option Nat :=
  let row := (Text.dropFront? "+" name).getD name
  if row ≠ [] ∧ row.all Char.isDigit ∧ valueOf row < 2 ^ 64 then some (valueOf row) else none

/-- The property of a value: a field of an object, or an item of an array by its index. -/
def property? (name : Text) : Json → Option Json
  | .object fields => field? name fields
  | .array items => (index? name).bind (items[·]?)
  | _ => none

/-- Follows property names from a value. -/
def follow : List Text → Json → Resolution
  | [], value => if value.isNull then .null else .found value
  | name :: names, value =>
    if value.isNull then .null
    else
      match value.property? name with
      | some next => follow names next
      | none => .noSuchProperty name

/-- Follows a path from a value; the empty path leads to the value itself. -/
def resolve (root : Json) (path : Text) : Resolution :=
  follow (if path.isEmpty then [] else Text.splitOn '.' path) root

end Json

end Phrasebook
