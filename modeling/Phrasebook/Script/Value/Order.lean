import Phrasebook.Binary64.Arithmetic
import Phrasebook.Script.Value.Basic

/-!
# Equality and order of values

Values are compared by what they hold. So both sides are first brought into a plain form, in which
objects of the model are maps and all rows of items are lists.
-/

namespace Phrasebook.Script

namespace Value

/-! ## Plain values -/

mutual

def plainOfJson : Json → Value
  | .null => none
  | .bool b => bool b
  | .integer i => integer i.val
  | .float x => float (.finite x)
  | .string s => ofText s
  | .array items => list (plainOfItems items)
  | .object fields => map (plainOfFields fields)

def plainOfItems : List Json → List Value
  | [] => []
  | item :: items => plainOfJson item :: plainOfItems items

def plainOfFields : List (Text × Json) → List (Value × Value)
  | [] => []
  | (key, value) :: fields => (ofText key, plainOfJson value) :: plainOfFields fields

end

mutual

def plain : Value → Value
  | string s _ => ofText s
  | list items => list (plainItems items)
  | stream items => list (plainItems items)
  | map entries => map (plainEntries entries)
  | record _ fields => map (plainOfFields fields)
  | group key items => list [plain key, list (plainItems items)]
  | v => v

def plainItems : List Value → List Value
  | [] => []
  | item :: items => plain item :: plainItems items

def plainEntries : List (Value × Value) → List (Value × Value)
  | [] => []
  | (key, value) :: entries => (plain key, plain value) :: plainEntries entries

end

/-! ## Numbers -/

/-- The exact order of an integer and a finite number; zero comes after negative zero. -/
def compareToFinite (i : Int) (x : Binary64.Finite) : Ordering :=
  (compare (i * Binary64.unitsOfOne) x.signedUnits).then
    (if x.negative then .gt else .eq)

/-- A total order of floating point numbers: negative zero before zero, and what is not a number
last. -/
def compareFloats : Binary64 → Binary64 → Ordering
  | .nan, .nan => .eq
  | .nan, _ => .gt
  | _, .nan => .lt
  | .infinite s, .infinite t => compare t.toNat s.toNat
  | .infinite s, .finite _ => if s then .lt else .gt
  | .finite _, .infinite t => if t then .gt else .lt
  | .finite x, .finite y =>
    (compare x.signedUnits y.signedUnits).then (compare y.negative.toNat x.negative.toNat)

def compareToFloat (i : Int) : Binary64 → Ordering
  | .nan => .lt
  | .infinite negative => if negative then .gt else .lt
  | .finite x => compareToFinite i x

def equalsFloat (i : Int) : Binary64 → Bool
  | .finite x => i * Binary64.unitsOfOne == x.signedUnits
  | _ => false

/-- The integer that a truth value counts as. -/
def ofBool (b : Bool) : Int := if b then 1 else 0

/-! ## Equality -/

mutual

/-- Whether two plain values are equal; truth values are equal to the numbers that they count as. -/
def samePlain : Value → Value → Bool
  | undefined, undefined => true
  | none, none => true
  | bool a, bool b => a == b
  | bool a, integer j => ofBool a == j
  | bool a, float y => equalsFloat (ofBool a) y
  | integer i, bool b => i == ofBool b
  | integer i, integer j => i == j
  | integer i, float y => equalsFloat i y
  | float x, bool b => equalsFloat (ofBool b) x
  | float x, integer j => equalsFloat j x
  | float x, float y => x.compare? y == some .eq
  | string s _, string t _ => s == t
  | list items, list items' => sameItems items items'
  | map entries, map entries' => sameEntries entries entries'
  | _, _ => false

def sameItems : List Value → List Value → Bool
  | [], [] => true
  | v :: items, w :: items' => samePlain v w && sameItems items items'
  | _, _ => false

def sameEntries : List (Value × Value) → List (Value × Value) → Bool
  | [], [] => true
  | (k, v) :: entries, (l, w) :: entries' =>
    samePlain k l && samePlain v w && sameEntries entries entries'
  | _, _ => false

end

def equals (v w : Value) : Bool := samePlain v.plain w.plain

/-! ## Order -/

def Kind.rank : Kind → Nat
  | .undefined => 0
  | .none => 1
  | .bool => 2
  | .number => 3
  | .string => 4
  | .sequence => 5
  | .map => 6
  | .stream => 7
  | .other => 8

mutual

/-- The order of two plain values; different kinds come in the order of kinds. -/
def comparePlain : Value → Value → Ordering
  | bool a, bool b => compare a.toNat b.toNat
  | integer i, integer j => compare i j
  | integer i, float y => compareToFloat i y
  | float x, integer j => (compareToFloat j x).swap
  | float x, float y => compareFloats x y
  | string s _, string t _ => s.compare t
  | list items, list items' => compareItems items items'
  | map entries, map entries' => compareEntries entries entries'
  | v, w => compare v.kind.rank w.kind.rank

def compareItems : List Value → List Value → Ordering
  | [], [] => .eq
  | [], _ :: _ => .lt
  | _ :: _, [] => .gt
  | v :: items, w :: items' => (comparePlain v w).then (compareItems items items')

def compareEntries : List (Value × Value) → List (Value × Value) → Ordering
  | [], [] => .eq
  | [], _ :: _ => .lt
  | _ :: _, [] => .gt
  | (k, v) :: entries, (l, w) :: entries' =>
    (comparePlain k l).then ((comparePlain v w).then (compareEntries entries entries'))

end

def order (v w : Value) : Ordering := comparePlain v.plain w.plain

def isLess (v w : Value) : Bool := order v w == .lt

/-- Letters of texts in lower case, so that their case does not count in an order. -/
def foldCase : Value → Value
  | string s safe => string (s.map Char.toLower) safe
  | v => v

/-- The order of two values in which the case of ASCII letters counts or not. -/
def orderBy (caseSensitive : Bool) (v w : Value) : Ordering :=
  match v, w with
  | string _ _, string _ _ => if caseSensitive then order v w else order v.foldCase w.foldCase
  | _, _ => order v w

/-! ## Maps -/

/-- Puts an entry in its place in the order of the keys; a key that is there stays, with the new
value. -/
def putEntry (key value : Value) : List (Value × Value) → List (Value × Value)
  | [] => [(key, value)]
  | (k, v) :: entries =>
    match order key k with
    | .lt => (key, value) :: (k, v) :: entries
    | .eq => (k, value) :: entries
    | .gt => (k, v) :: putEntry key value entries

/-- The map of entries that come one after another. -/
def mapOf (entries : List (Value × Value)) : Value :=
  map (entries.foldl (fun entries (key, value) => putEntry key value entries) [])

def under? (key : Value) : List (Value × Value) → Option Value
  | [] => Option.none
  | (k, v) :: entries => if order key k = .eq then some v else under? key entries

end Value

end Phrasebook.Script
