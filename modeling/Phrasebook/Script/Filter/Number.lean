import Phrasebook.Binary64.Reader
import Phrasebook.Script.Arithmetic
import Phrasebook.Script.Arguments
import Phrasebook.Script.Filter.Text

/-!
# Filters that make a number
-/

namespace Phrasebook.Script

namespace Filter

def abs : Filter := fun v args => do
  Arguments.atMost 0 args.all
  match v with
  | .integer i => return .integer i.natAbs
  | .float x => return .float x.abs
  | _ => .error .invalidOperation

/-- A number rounded to so many places; integers stay as they are. -/
def round : Filter := fun v args => do
  let places ← optional Value.asInt args.all[0]?
  Arguments.atMost 1 args.all
  match v with
  | .integer i => return .integer i
  | .float x =>
    let scale := Binary64.powTen (places.getD 0)
    return .float ((scale.mul x).round.div scale)
  | _ => .error .invalidOperation

/-- The integer that a text denotes, if it has at most 128 bits. -/
def integerOf? (s : Text) : Option Int :=
  let (negative, row) := Binary64.cutSign s
  let i : Int := if negative then -(valueOf row : Int) else valueOf row
  if row ≠ [] ∧ row.all Char.isDigit ∧ Value.isInt128 i then some i else none

def wholePart (x : Binary64) : Value := .integer (x.toIntWithin (2 ^ 127))

def int : Filter := fun v args => do
  Arguments.atMost 0 args.all
  match v with
  | .undefined | .none => return .integer 0
  | .bool b => return .integer (Value.ofBool b)
  | .integer i => return .integer i
  | .float x => return wholePart x
  | .string s _ =>
    match integerOf? s, Binary64.ofText? s with
    | some i, _ => return .integer i
    | none, some x => return wholePart x
    | none, none => .error .invalidOperation
  | _ => .error .invalidOperation

def float : Filter := fun v args => do
  Arguments.atMost 0 args.all
  match v with
  | .undefined | .none => return .float Binary64.zero
  | .string s _ =>
    match Binary64.ofText? s with
    | some x => return .float x
    | none => .error .invalidOperation
  | v =>
    match v.operandFloat? with
    | some x => return .float x
    | none => .error .invalidOperation

def bool : Filter := fun v args => do
  Arguments.atMost 0 args.all
  return .bool v.isTrue

def length : Filter := fun v args => do
  Arguments.atMost 0 args.all
  match v.length? with
  | some n => return .integer n
  | none => .error .invalidOperation

end Filter

end Phrasebook.Script
