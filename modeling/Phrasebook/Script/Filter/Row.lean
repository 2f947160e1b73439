import Phrasebook.Script.Arithmetic
import Phrasebook.Script.Filter.Text

/-!
# Filters on items
-/

namespace Phrasebook.Script

namespace Filter

/-! ## Single items -/

/-- The first item; of no items nothing. -/
def first : Filter := fun v args => do
  Arguments.atMost 0 args.all
  match v.kind, v.items? with
  | .undefined, _ | .none, _ => .error .invalidOperation
  | _, some items => return items.headD .undefined
  | _, none => .error .invalidOperation

/-- The last item of a row or text; of no items nothing. -/
def last : Filter := fun v args => do
  Arguments.atMost 0 args.all
  match v.kind, v.items? with
  | .string, some items | .sequence, some items | .stream, some items =>
    return items.getLast?.getD .undefined
  | _, _ => .error .invalidOperation

/-- The least item, the first one of several. -/
def min : Filter := fun v args => do
  Arguments.atMost 0 args.all
  let less (v w : Value) : Value := if w.isLess v then w else v
  match ← v.items with
  | [] => return .undefined
  | item :: items => return items.foldl less item

/-- The greatest item, the last one of several. -/
def max : Filter := fun v args => do
  Arguments.atMost 0 args.all
  let greater (v w : Value) : Value := if w.isLess v then v else w
  match ← v.items with
  | [] => return .undefined
  | item :: items => return items.foldl greater item

/-- The sum of numbers, in which what is undefined does not count. -/
def sumFrom (total : Value) : List Value → Except Fault Value
  | [] => .ok total
  | item :: items =>
    match item with
    | .undefined => sumFrom total items
    | .integer _ | .float _ =>
      match total.add item with
      | .ok total => sumFrom total items
      | .error fault => .error fault
    | _ => .error .invalidOperation

def sum : Filter := fun v args => do
  Arguments.atMost 0 args.all
  sumFrom (.integer 0) (← v.items)

/-- What two texts with a joiner between them make; there is no joiner behind the empty text. -/
def joined (joiner : Text) : (soFar : Text) → List Value → Text
  | soFar, [] => soFar
  | soFar, item :: items =>
    joined joiner (if soFar.isEmpty then item.text else soFar ++ joiner ++ item.text) items

def join : Filter := fun v args => do
  let joiner ← optional Value.asText args.all[0]?
  Arguments.atMost 1 args.all
  return .ofText (joined (joiner.getD []) [] (← v.items))

/-! ## Rows from rows -/

def list : Filter := fun v args => do
  Arguments.atMost 0 args.all
  return .list (← v.items)

def reverse : Filter := fun v args => do
  Arguments.atMost 0 args.all
  v.reverse

/-- The part of an item at a path, or a default where there is none. -/
def partOr (default : Value) (path : Text) (item : Value) : Value :=
  match item.atPath path with
  | .ok .undefined => default
  | .ok part => part
  | .error _ => default

def orderAtPath (caseSensitive : Bool) (path : Text) (v w : Value) : Ordering :=
  match v.atPath path, w.atPath path with
  | .ok v, .ok w => Value.orderBy caseSensitive v w
  | _, _ => .eq

/-- The order of two items by one path after another. -/
def orderAtPaths (caseSensitive : Bool) (paths : List Text) (v w : Value) : Ordering :=
  paths.foldl (fun order path => order.then (orderAtPath caseSensitive path v w)) .eq

/-- Items in an order; equal ones stay as they stand. -/
def sorted (order : Value → Value → Ordering) (items : List Value) : List Value :=
  items.mergeSort fun v w => order v w != .gt

def sort : Filter := fun v args => do
  let items ← v.items
  let caseSensitive := (← optional Value.asBool (args.named? "case_sensitive")).getD false
  let path ← optional Value.asString (args.named? "attribute")
  let order :=
    match path with
    | some path => orderAtPaths caseSensitive ((Text.splitOn ',' path).map Text.trim)
    | none => Value.orderBy caseSensitive
  let backwards := (← optional Value.asBool (args.named? "reverse")).getD false
  args.onlyNamed ["case_sensitive", "attribute", "reverse"]
  Arguments.atMost 0 args.positional
  let items := sorted order items
  return .list (if backwards then items.reverse else items)

/-- The items whose key no earlier item has. -/
def distinct (key : Value → Value) : (seen : List Value) → List Value → List Value
  | _, [] => []
  | seen, item :: items =>
    if seen.any fun k => Value.order k (key item) == .eq then distinct key seen items
    else item :: distinct key (key item :: seen) items

def lowered : Value → Value
  | .string s safe => .string (Text.lower s) safe
  | v => v

def unique : Filter := fun v args => do
  let path ← optional Value.asString (args.named? "attribute")
  let caseSensitive := (← optional Value.asBool (args.named? "case_sensitive")).getD false
  args.onlyNamed ["case_sensitive", "attribute"]
  Arguments.atMost 0 args.positional
  let part (item : Value) : Value :=
    match path with
    | some path => partOr .undefined path item
    | none => item
  let key (item : Value) : Value := if caseSensitive then part item else lowered (part item)
  return .list (distinct key [] (← v.items))

/-- The items cut into rows of a length, of which there are at most `rows`. -/
def rowsOf {α : Type} (length : Nat) : (rows : Nat) → List α → List (List α)
  | 0, _ => []
  | _, [] => []
  | rows + 1, items => items.take length :: rowsOf length rows (items.drop length)

/-- The items in rows of a length; a filler makes up the last one. -/
def batch : Filter := fun v args => do
  let length ← required Value.asCount args.all[0]?
  let filler ← optional Value.asValue args.all[1]?
  Arguments.atMost 2 args.all
  if length = 0 then .error .invalidOperation
  let items ← v.items
  let filled (row : List Value) : List Value :=
    match filler with
    | some filler => row ++ List.replicate (length - row.length) filler
    | none => row
  return .list ((rowsOf length items.length items).map fun row => .list (filled row))

def cutRows {α : Type} : (lengths : List Nat) → List α → List (List α)
  | [], _ => []
  | length :: lengths, items => items.take length :: cutRows lengths (items.drop length)

/-- The items in so many rows; a filler makes up those that are shorter than the first ones. -/
def slice : Filter := fun v args => do
  let rows ← required Value.asCount args.all[0]?
  let filler ← optional Value.asValue args.all[1]?
  Arguments.atMost 2 args.all
  if rows = 0 then .error .invalidOperation
  let items ← v.items
  let longer := items.length % rows
  let lengths :=
    List.replicate longer (items.length / rows + 1) ++
      List.replicate (rows - longer) (items.length / rows)
  let cut := cutRows lengths items
  let filled :=
    match filler with
    | some filler => cut.take longer ++ (cut.drop longer).map (· ++ [filler])
    | none => cut
  return .list (filled.map .list)

/-- Items with equal keys next to each other, put together. -/
def grouped (key : Value → Value) (same : Value → Value → Bool) :
    List Value → List (Value × List Value)
  | [] => []
  | item :: items =>
    match grouped key same items with
    | (k, row) :: groups =>
      if same (key item) k then (k, item :: row) :: groups
      else (key item, [item]) :: (k, row) :: groups
    | [] => [(key item, [item])]

def groupby : Filter := fun v args => do
  let default := (args.named? "default").getD .undefined
  let caseSensitive := (← optional Value.asBool (args.named? "case_sensitive")).getD false
  let path ←
    match ← optional Value.asString args.positional[0]? with
    | some path => pure path
    | none => required Value.asString (args.named? "attribute")
  args.onlyNamed ["default", "case_sensitive", "attribute"]
  Arguments.atMost 1 args.positional
  let key := partOr default path
  let order (v w : Value) : Ordering := Value.orderBy caseSensitive (key v) (key w)
  let same (k l : Value) : Bool := Value.orderBy caseSensitive k l == .eq
  return .list ((grouped key same (sorted order (← v.items))).map fun (k, row) => .group k row)

/-- The rows of items at the same position, as long as every row has one. -/
def zipped : (size : Nat) → List (List Value) → List (List Value)
  | 0, _ => []
  | size + 1, rows =>
    if rows.any List.isEmpty then []
    else rows.filterMap List.head? :: zipped size (rows.map List.tail)

def zip : Filter := fun v args => do
  let rows ← (v :: args.all).mapM Value.items
  return .list ((zipped rows.flatten.length rows).map .list)

/-- The items of several rows, or the entries of several maps, one after another. -/
def chain : Filter := fun v args => do
  let parts := v :: args.all
  let rows ← parts.mapM Value.items
  if parts.all (·.kind == .map) then
    let entries := (parts.zip rows).flatMap fun (part, keys) =>
      keys.map fun key => (key, (part.item? key).getD .undefined)
    return Value.mapOf entries
  else return .list rows.flatten

/-! ## Maps -/

def entries (v : Value) : Except Fault (List (Value × Value)) := do
  match v.kind with
  | .map => return (← v.items).map fun key => (key, (v.item? key).getD .undefined)
  | _ => .error .invalidOperation

def pairs (entries : List (Value × Value)) : Value :=
  .list (entries.map fun (key, value) => .list [key, value])

def items : Filter := fun v args => do
  Arguments.atMost 0 args.all
  return pairs (← entries v)

def byValue (name : Option Text) : Except Fault Bool :=
  match name.map String.ofList with
  | none | some "key" => .ok false
  | some "value" => .ok true
  | _ => .error .invalidOperation

def dictsort : Filter := fun v args => do
  let entries ← entries v
  let byValue ← byValue (← optional Value.asString (args.named? "by"))
  let caseSensitive := (← optional Value.asBool (args.named? "case_sensitive")).getD false
  let backwards := (← optional Value.asBool (args.named? "reverse")).getD false
  args.onlyNamed ["by", "case_sensitive", "reverse"]
  Arguments.atMost 0 args.positional
  let part (entry : Value × Value) : Value := if byValue then entry.2 else entry.1
  let entries := entries.mergeSort fun e f => Value.orderBy caseSensitive (part e) (part f) != .gt
  return pairs (if backwards then entries.reverse else entries)

end Filter

end Phrasebook.Script
