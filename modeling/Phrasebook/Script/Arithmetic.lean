import Phrasebook.Binary64.Power
import Phrasebook.Script.Value.Access

/-!
# Operators on values

Two integers give an integer of at most 128 bits or a fault. If one side is a floating point number
the other becomes one too.
-/

namespace Phrasebook.Script

namespace Value

/-- Two operands on common ground. -/
inductive Operands
  | integers (i j : Int)
  | floats (x y : Binary64)
  | texts (s t : Text)

def int128Limit : Int := 2 ^ 127

def isInt128 (i : Int) : Bool := -int128Limit ≤ i && i < int128Limit

def operandInt? : Value → Option Int
  | bool b => some (ofBool b)
  | integer i => if isInt128 i then some i else Option.none
  | _ => Option.none

def operandFloat? : Value → Option Binary64
  | bool b => some (Binary64.ofInt (ofBool b))
  | integer i => some (Binary64.ofInt i)
  | float x => some x
  | _ => Option.none

def operands? (v w : Value) : Option Operands :=
  match v, w with
  | string s _, string t _ => some (.texts s t)
  | float x, w => w.operandFloat?.map (.floats x)
  | v, float y => v.operandFloat?.map (.floats · y)
  | v, w => do return .integers (← v.operandInt?) (← w.operandInt?)

/-- An integer of at most 128 bits. -/
def checked (i : Int) : Except Fault Value :=
  if isInt128 i then .ok (integer i) else .error .invalidOperation

def rowItems? (v : Value) : Option (List Value) :=
  match v with
  | list items => some items
  | stream items => some items
  | group k items => some [k, list items]
  | _ => Option.none

/-- The sum of numbers, or what stands in two texts or rows one after the other. -/
def add (v w : Value) : Except Fault Value :=
  match v.rowItems?, w.rowItems? with
  | some items, some items' => .ok (stream (items ++ items'))
  | _, _ =>
    match operands? v w with
    | some (.integers i j) => checked (i + j)
    | some (.floats x y) => .ok (float (x.add y))
    | some (.texts s t) => .ok (ofText (s ++ t))
    | Option.none => .error .invalidOperation

def subtract (v w : Value) : Except Fault Value :=
  match operands? v w with
  | some (.integers i j) => checked (i - j)
  | some (.floats x y) => .ok (float (x.sub y))
  | _ => .error .invalidOperation

def count (v : Value) : Except Fault Nat :=
  match v.toInt64? with
  | some i => if 0 ≤ i then .ok i.toNat else .error .invalidOperation
  | Option.none => .error .invalidOperation

def repeated {α : Type} (items : List α) (n : Nat) : List α := (List.replicate n items).flatten

/-- The product of numbers, or a text or row repeated. -/
def multiply (v w : Value) : Except Fault Value :=
  match v, w with
  | string s _, w => do return ofText (repeated s (← w.count))
  | v, string t _ => do return ofText (repeated t (← v.count))
  | v, w =>
    match v.rowItems?, w.rowItems? with
    | some items, _ => do return stream (repeated items (← w.count))
    | _, some items => do return stream (repeated items (← v.count))
    | Option.none, Option.none =>
      match operands? v w with
      | some (.integers i j) => checked (i * j)
      | some (.floats x y) => .ok (float (x.mul y))
      | _ => .error .invalidOperation

/-- The quotient, which is always a floating point number. -/
def divide (v w : Value) : Except Fault Value :=
  match v.operandFloat?, w.operandFloat? with
  | some x, some y => .ok (float (x.div y))
  | _, _ => .error .invalidOperation

/-- The quotient that leaves a remainder that is not negative. -/
def floorDivide (v w : Value) : Except Fault Value :=
  match operands? v w with
  | some (.integers i j) => if j = 0 then .error .invalidOperation else checked (i / j)
  | some (.floats x y) => .ok (float (x.divEuclid y))
  | _ => .error .invalidOperation

/-- The remainder: of integers one that is not negative, of other numbers one with the sign of the
left side. -/
def remainder (v w : Value) : Except Fault Value :=
  match operands? v w with
  | some (.integers i j) => if j = 0 then .error .invalidOperation else checked (i % j)
  | some (.floats x y) => .ok (float (x.rem y))
  | _ => .error .invalidOperation

/-- An integer raised to a power, if the result has at most 128 bits. -/
def powerOfInt (i : Int) (n : Nat) : Except Fault Value :=
  if i.natAbs ≤ 1 then .ok (integer (i ^ (n % 2 + if n = 0 then 0 else 2)))
  else if n < 128 then checked (i ^ n)
  else .error .invalidOperation

def power (v w : Value) : Except Fault Value :=
  match operands? v w with
  | some (.integers i j) =>
    if 0 ≤ j ∧ j < 2 ^ 32 then powerOfInt i j.toNat else .error .invalidOperation
  | some (.floats x y) => .ok (float (x.pow y))
  | _ => .error .invalidOperation

def negate (v : Value) : Except Fault Value :=
  match v with
  | integer i => if i = int128Limit then .ok (integer (-i)) else
    match v.operandInt? with
    | some i => checked (-i)
    | Option.none => .error .invalidOperation
  | float x => .ok (float x.neg)
  | _ => .error .invalidOperation

def concat (v w : Value) : Value := ofText (v.text ++ w.text)

end Value

/-- The value of an operator that needs the values of both its sides. -/
def BinaryOp.apply (op : BinaryOp) (v w : Value) : Except Fault Value :=
  match op with
  | .or => .ok (if v.isTrue then v else w)
  | .and => .ok (if v.isTrue then w else v)
  | .equal => .ok (.bool (v.equals w))
  | .notEqual => .ok (.bool !(v.equals w))
  | .less => .ok (.bool (Value.order v w == .lt))
  | .lessEqual => .ok (.bool (Value.order v w != .gt))
  | .greater => .ok (.bool (Value.order v w == .gt))
  | .greaterEqual => .ok (.bool (Value.order v w != .lt))
  | .within => do return .bool (← w.holds v)
  | .add => v.add w
  | .subtract => v.subtract w
  | .concat => .ok (v.concat w)
  | .multiply => v.multiply w
  | .divide => v.divide w
  | .floorDivide => v.floorDivide w
  | .remainder => v.remainder w
  | .power => v.power w

def UnaryOp.apply (op : UnaryOp) (v : Value) : Except Fault Value :=
  match op with
  | .not => .ok (.bool !v.isTrue)
  | .negate => v.negate

end Phrasebook.Script
