import Phrasebook.Script.Filter.Message
import Phrasebook.Script.Filter.Number
import Phrasebook.Script.Filter.Row
import Phrasebook.Script.Test

/-!
# All filters by name

Some filters put another filter or a test on every item.
-/

namespace Phrasebook.Script

variable [LocaleData]

namespace Filter

/-- The filter with a name, among those that need no other filter. -/
def single? (locale : Locale) (name : Text) : Option Filter :=
  match String.ofList name with
  | "safe" => some safe
  | "escape" | "e" => some escape
  | "lower" => some (ofText Text.lower)
  | "upper" => some (ofText Text.upper)
  | "title" => some (ofText (titleFrom false))
  | "capitalize" => some (ofText capitalize)
  | "string" => some (ofText id)
  | "trim" => some trim
  | "replace" => some replace
  | "split" => some split
  | "lines" => some lines
  | "indent" => some indent
  | "urlencode" => some urlencode
  | "tojson" => some tojson
  | "pprint" => some pprint
  | "length" | "count" => some length
  | "abs" => some abs
  | "round" => some round
  | "int" => some int
  | "float" => some float
  | "bool" => some bool
  | "first" => some first
  | "last" => some last
  | "min" => some min
  | "max" => some max
  | "sum" => some sum
  | "join" => some join
  | "list" => some list
  | "reverse" => some reverse
  | "sort" => some sort
  | "unique" => some unique
  | "batch" => some batch
  | "slice" => some slice
  | "groupby" => some groupby
  | "zip" => some zip
  | "chain" => some chain
  | "items" => some items
  | "dictsort" => some dictsort
  | "default" | "d" => some default
  | "attr" => some attr
  | "plural" => some (ofWord Inflection.plural)
  | "singular" => some (ofWord Inflection.singular)
  | "inflect" => some inflect
  | "localized" => some (localized locale)
  | _ => none

/-- The names of the filters that put another filter or a test on every item. -/
def outerNames : List Text := ["map", "select", "reject", "selectattr", "rejectattr"]

def isName (name : Text) : Bool :=
  outerNames.contains name || (single? .invariant name).isSome

end Filter

/-- The test with a name; two tests ask whether a text names a filter or a test. -/
def Test.find? (name : Text) : Option Test :=
  match String.ofList name with
  | "filter" => some (asksName Filter.isName)
  | "test" => some (asksName fun s => s ∈ ["filter", "test"].map String.toList || (named? s).isSome)
  | _ => named? name
where
  /-- The test of a text. -/
  asksName (p : Text → Bool) : Test := fun v args => do
    let s ← v.asString
    Arguments.atMost 0 args.all
    return p s

namespace Filter

/-! ## Choosing items -/

/-- The items for which a condition has the wanted outcome. -/
def chosen (wanted : Bool) (condition : Value → Except Fault Bool) :
    List Value → Except Fault (List Value)
  | [] => .ok []
  | item :: items => do
    let holds ← condition item
    let rest ← chosen wanted condition items
    return if holds == wanted then item :: rest else rest

/-- The condition that a test with arguments makes; without a test the value itself counts. -/
def conditionOf (name : Option Text) (args : List Value) :
    Except Fault (Value → Except Fault Bool) :=
  match name with
  | none => .ok fun v => .ok v.isTrue
  | some name =>
    match Test.find? name with
    | some test => .ok fun v => test v ⟨args, []⟩
    | none => .error .unknownTest

/-- The items of which a test holds, or does not hold. -/
def select (wanted : Bool) : Filter := fun v args => do
  let name ← optional Value.asText args.all[0]?
  let condition ← conditionOf name (args.all.drop 1)
  return .list (← chosen wanted condition (← v.items))

/-- The items of whose part at a path a test holds, or does not hold. -/
def selectattr (wanted : Bool) : Filter := fun v args => do
  let path ← required Value.asText args.all[0]?
  let name ← optional Value.asText args.all[1]?
  let condition ← conditionOf name (args.all.drop 2)
  return .list (← chosen wanted (fun item => do condition (← item.atPath path)) (← v.items))

/-! ## Changing items -/

/-- The part of an item under a key or at a path, or the default where there is none. -/
def partOf (key default item : Value) : Except Fault Value :=
  let part :=
    match key with
    | .string path _ => item.atPath path
    | key => item.item key
  match part, default with
  | .ok .undefined, default => .ok default
  | .ok part, _ => .ok part
  | .error fault, .undefined => .error fault
  | .error _, default => .ok default

/-- An attribute of every item, or what a filter makes of every item. -/
def mapItems (lookup? : Text → Option Filter) : Filter := fun v args => do
  match ← optional Value.asValue (args.named? "attribute") with
  | some key =>
    Arguments.atMost 0 args.positional
    let default := (args.named? "default").getD .undefined
    let items ← (← v.items).mapM (partOf key default)
    args.onlyNamed ["attribute", "default"]
    return .list items
  | none =>
    match args.positional with
    | [] => .error .invalidOperation
    | name :: rest =>
      match lookup? (← name.asString) with
      | none => .error .unknownFilter
      | some filter => return .list (← (← v.items).mapM fun item => filter item ⟨rest, args.named⟩)

/-- The filter with a name, where filters stand in filters at most `depth` times. -/
def within? (locale : Locale) : (depth : Nat) → Text → Option Filter
  | 0, name => single? locale name
  | depth + 1, name =>
    match String.ofList name with
    | "map" => some (mapItems (within? locale depth))
    | "select" => some (select true)
    | "reject" => some (select false)
    | "selectattr" => some (selectattr true)
    | "rejectattr" => some (selectattr false)
    | _ => single? locale name

/-- The value of a filter. Every filter in a filter takes one of its arguments. -/
def apply (locale : Locale) (name : Text) (v : Value) (args : Arguments) : Except Fault Value :=
  match within? locale (args.positional.length + 1) name with
  | some filter => filter v args
  | none => .error .unknownFilter

end Filter

def Test.apply (name : Text) (v : Value) (args : Arguments) : Except Fault Bool :=
  match Test.find? name with
  | some test => test v args
  | none => .error .unknownTest

end Phrasebook.Script
