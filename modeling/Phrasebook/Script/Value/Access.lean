import Phrasebook.Script.Value.Order
import Phrasebook.Script.Value.Text

/-!
# What a value holds
-/

namespace Phrasebook.Script

namespace Value

/-! ## Items -/

def charsOf (s : Text) : List Value := s.map fun c => ofText [c]

/-- The items that a value goes through: the characters of a text, the keys of a map. Nothing has
no items; other values have none to go through. -/
def items? : Value → Option (List Value)
  | undefined | none => some []
  | string s _ => some (charsOf s)
  | list items => some items
  | stream items => some items
  | map entries => some (entries.map Prod.fst)
  | record _ fields => some (fields.map fun (key, _) => ofText key)
  | group key items => some [key, list items]
  | _ => Option.none

/-- The items that a value goes through, which it has to have. -/
def items (v : Value) : Except Fault (List Value) :=
  match v.items? with
  | some items => .ok items
  | Option.none => .error .invalidOperation

/-- The number of items; a single value has none. -/
def length? : Value → Option Nat
  | string s _ => some s.length
  | list items => some items.length
  | stream items => some items.length
  | map entries => some entries.length
  | record _ fields => some fields.length
  | group _ _ => some 2
  | _ => Option.none

/-! ## Numbers -/

def int64Limit : Int := 2 ^ 63

/-- The 64-bit integer that a value is: an integer, a truth value or a whole floating point
number. -/
def toInt64? : Value → Option Int
  | bool b => some (ofBool b)
  | integer i => if -int64Limit ≤ i ∧ i < int64Limit then some i else Option.none
  | float x =>
    match x.toInt? with
    | some i =>
      if -int64Limit ≤ i ∧ i ≤ int64Limit then some (min i (int64Limit - 1)) else Option.none
    | Option.none => Option.none
  | _ => Option.none

/-! ## Parts -/

/-- The position that an index names in a row of `size` items; a negative one counts from the
end. -/
def position? (size : Nat) (i : Int) : Option Nat :=
  if 0 ≤ i then some i.toNat else if i.natAbs ≤ size then some (size - i.natAbs) else Option.none

def itemAt? (items : List Value) (key : Value) : Option Value :=
  (key.toInt64?.bind (position? items.length)).bind (items[·]?)

/-- The part of a value under a key, if it has one. An object of the model has one under every text.
-/
def item? (v key : Value) : Option Value :=
  match v with
  | string s _ => itemAt? (charsOf s) key
  | list items => itemAt? items key
  | stream items => itemAt? items key
  | map entries => under? key entries
  | record path fields =>
    match key with
    | string name _ => some (property path fields name)
    | _ => Option.none
  | group k items =>
    match key with
    | string name _ =>
      if name = "grouper" then some k
      else if name = "list" then some (list items)
      else Option.none
    | key => itemAt? [k, list items] key
  | routine r _ =>
    match key with
    | string name _ =>
      if name = "name" then some (ofText r.name)
      else if name = "arguments" then some (list (r.params.map ofText))
      else Option.none
    | _ => Option.none
  | _ => Option.none

/-- The part of a value under a key; nothing has no parts to ask for. -/
def item (v key : Value) : Except Fault Value :=
  match v.item? key with
  | some part => .ok part
  | Option.none =>
    match v with
    | undefined => .error .undefinedValue
    | _ => .ok undefined

def member (v : Value) (name : Text) : Except Fault Value := v.item (ofText name)

/-- The key that a step of a path names: a position, or a name. -/
def pathKey (step : Text) : Value :=
  let row := (Text.dropFront? "+" step).getD step
  if row ≠ [] ∧ row.all Char.isDigit ∧ valueOf row < 2 ^ 64 then integer (valueOf row)
  else ofText step

def follow (v : Value) : List Text → Except Fault Value
  | [] => .ok v
  | step :: steps =>
    match v.item (pathKey step) with
    | .ok part => part.follow steps
    | .error fault => .error fault

/-- Follows a path with dots between its steps. -/
def atPath (v : Value) (path : Text) : Except Fault Value := v.follow (Text.splitOn '.' path)

/-- Whether a container holds a value: a text a part of it, a map a key, a row an item. -/
def holds (container v : Value) : Except Fault Bool :=
  match container with
  | undefined => .ok false
  | string s _ => .ok (Text.includes v.text s)
  | map entries => .ok (under? v entries).isSome
  | record _ _ => .ok (container.item? v).isSome
  | list items => .ok (items.any (equals v))
  | stream items => .ok (items.any (equals v))
  | group k items => .ok ([k, list items].any (equals v))
  | loop _ | routine _ _ | builtin _ => .ok false
  | _ => .error .invalidOperation

/-! ## Slices -/

/-- A bound of a slice, unless it is missing. -/
def bound? : Value → Except Fault (Option Int)
  | none => .ok Option.none
  | v =>
    match v.toInt64? with
    | some i => .ok (some i)
    | Option.none => .error .invalidOperation

/-- A bound as a position among `size` items. -/
def clamp (size : Nat) (i : Int) : Nat :=
  if 0 ≤ i then min i.toNat size else size - i.natAbs

/-- Every `step`-th item, the first one included, with `skip` items left out before it. -/
def everyNth {α : Type} (step : Nat) : (skip : Nat) → List α → List α
  | _, [] => []
  | 0, item :: items => item :: everyNth step (step - 1) items
  | skip + 1, _ :: items => everyNth step skip items

/-- The items from `start` on to before `stop` in steps of `step`, which is not zero. With a
negative step they are taken backwards, and `start` and `stop` are counted from behind them. -/
def sliceItems {α : Type} (items : List α) (start stop : Option Int) (step : Int) : List α :=
  let size := items.length
  if 0 < step then
    let first := (start.map (clamp size)).getD 0
    let last := (stop.map (clamp size)).getD size
    everyNth step.toNat 0 ((items.take last).drop first)
  else
    let behind (i : Int) : Nat := if 0 ≤ i then i.toNat + 1 else size + 1 - i.natAbs
    let first := (start.map fun i => min (behind i) size).getD size
    let last := (stop.map behind).getD 0
    everyNth step.natAbs 0 ((items.take first).drop last).reverse

def slice (v start stop step : Value) : Except Fault Value := do
  let start ← bound? start
  let stop ← bound? stop
  let step := (← bound? step).getD 1
  if step = 0 then .error .invalidOperation
  match v with
  | undefined | none => return list []
  | string s _ => return ofText (sliceItems s start stop step)
  | list items => return stream (sliceItems items start stop step)
  | stream items => return stream (sliceItems items start stop step)
  | group k items => return stream (sliceItems [k, list items] start stop step)
  | _ => .error .invalidOperation

def reverse (v : Value) : Except Fault Value :=
  match v with
  | undefined | none => .ok v
  | string s _ => .ok (ofText s.reverse)
  | v =>
    match v.kind, v.items? with
    | .sequence, some items | .map, some items | .stream, some items => .ok (stream items.reverse)
    | _, _ => .error .invalidOperation

end Value

end Phrasebook.Script
