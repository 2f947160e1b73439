import Phrasebook.Script.Arithmetic
import Phrasebook.Script.Arguments
import Phrasebook.Text.Case

/-!
# Tests of values
-/

namespace Phrasebook.Script

/-- What holds of a value and arguments, or does not. -/
abbrev Test := Value → Arguments → Except Fault Bool

namespace Test

def ofPredicate (p : Value → Bool) : Test := fun v args => do
  Arguments.atMost 0 args.all
  return p v

def ofRelation (r : Value → Value → Bool) : Test := fun v args => do
  let other ← required Value.asValue args.all[0]?
  Arguments.atMost 1 args.all
  return r v other

def isUndefined : Value → Bool
  | .undefined => true
  | _ => false

def isSafe : Value → Bool
  | .string _ safe => safe
  | _ => false

def isInteger : Value → Bool
  | .integer _ => true
  | _ => false

def isFloat : Value → Bool
  | .float _ => true
  | _ => false

/-- The whole number that a value is, if it is one. -/
def whole? : Value → Option Int
  | .integer i => some i
  | v => v.toInt64?

def isOdd (v : Value) : Bool := (v |> whole?).any (· % 2 != 0)

def isEven (v : Value) : Bool := (v |> whole?).any (· % 2 == 0)

def isDivisibleBy (v w : Value) : Bool :=
  match Value.operands? v w with
  | some (.integers i j) => j != 0 && i % j == 0
  | some (.floats x y) => (x.rem y).isZero
  | _ => false

def isLower (v : Value) : Bool := v.text.all Text.isLowercase

def isUpper (v : Value) : Bool := v.text.all Text.isUppercase

def startsWith (v w : Value) : Bool := (Text.dropFront? w.text v.text).isSome

def endsWith (v w : Value) : Bool := (Text.dropFront? w.text.reverse v.text.reverse).isSome

/-- Whether two values are of one kind and equal. -/
def isSame (v w : Value) : Bool := v.kind == w.kind && isInteger v == isInteger w && v.equals w

def isTrueItself : Value → Bool
  | .bool b => b
  | _ => false

def isFalseItself : Value → Bool
  | .bool b => !b
  | _ => false

def isIn : Test := fun v args => do
  let container ← required Value.asValue args.all[0]?
  Arguments.atMost 1 args.all
  container.holds v

def named? (name : Text) : Option Test :=
  match String.ofList name with
  | "undefined" => some (ofPredicate isUndefined)
  | "defined" => some (ofPredicate (!isUndefined ·))
  | "none" => some (ofPredicate (·.kind == .none))
  | "safe" | "escaped" => some (ofPredicate isSafe)
  | "boolean" => some (ofPredicate (·.kind == .bool))
  | "odd" => some (ofPredicate isOdd)
  | "even" => some (ofPredicate isEven)
  | "divisibleby" => some (ofRelation isDivisibleBy)
  | "number" => some (ofPredicate (·.kind == .number))
  | "integer" => some (ofPredicate isInteger)
  | "int" => some (ofPredicate isInteger)
  | "float" => some (ofPredicate isFloat)
  | "string" => some (ofPredicate (·.kind == .string))
  | "sequence" => some (ofPredicate (·.kind == .sequence))
  | "iterable" => some (ofPredicate (·.items?.isSome))
  | "mapping" => some (ofPredicate (·.kind == .map))
  | "startingwith" => some (ofRelation startsWith)
  | "endingwith" => some (ofRelation endsWith)
  | "lower" => some (ofPredicate isLower)
  | "upper" => some (ofPredicate isUpper)
  | "sameas" => some (ofRelation isSame)
  | "eq" | "equalto" | "==" => some (ofRelation Value.equals)
  | "ne" | "!=" => some (ofRelation fun v w => !v.equals w)
  | "lt" | "lessthan" | "<" => some (ofRelation fun v w => Value.order v w == .lt)
  | "le" | "<=" => some (ofRelation fun v w => Value.order v w != .gt)
  | "gt" | "greaterthan" | ">" => some (ofRelation fun v w => Value.order v w == .gt)
  | "ge" | ">=" => some (ofRelation fun v w => Value.order v w != .lt)
  | "in" => some isIn
  | "true" => some (ofPredicate isTrueItself)
  | "false" => some (ofPredicate isFalseItself)
  | _ => none

end Test

end Phrasebook.Script
