import Phrasebook.Binary64.Arithmetic

/-!
# Powers and rounding to whole numbers

A small whole power is computed exactly and rounded once. Every other power is the exponential of
a logarithm, both summed as series of fixed-point numbers that carry far more bits than the
result.
-/

namespace Phrasebook.Binary64

/-! ## Fixed-point series -/

/-- The unit of the fixed-point numbers below. -/
def fixedOne : Int := 2 ^ 400

def fixedMul (x y : Int) : Int := x * y / fixedOne

/-- The sum of `power / k`, `power * ratio / (k + step)`, … with `count` terms. -/
def harmonicSeries (ratio : Int) (step : Nat) : (count : Nat) → (power : Int) → (k : Nat) → Int
  | 0, _, _ => 0
  | count + 1, power, k =>
    power / k + harmonicSeries ratio step count (fixedMul power ratio) (k + step)

/-- The natural logarithm of `(1 + z) / (1 - z)`. -/
def logOfRatio (z : Int) : Int := 2 * harmonicSeries (fixedMul z z) 2 200 z 1

def logTwo : Int := logOfRatio (fixedOne / 3)

/-- The natural logarithm of a magnitude that is not zero. -/
def Magnitude.log (m : Magnitude) : Int :=
  let top := m.units.log2
  let fraction : Int := m.units * fixedOne / (2 ^ top : Nat)
  ((top : Int) - 1074) * logTwo +
    logOfRatio ((fraction - fixedOne) * fixedOne / (fraction + fixedOne))

/-- `term + term * x / k + …` with `count` terms. -/
def exponentialSeries (x : Int) : (count : Nat) → (term : Int) → (k : Nat) → Int
  | 0, _, _ => 0
  | count + 1, term, k => term + exponentialSeries x count (fixedMul term x / (k : Int)) (k + 1)

/-- The number nearest to the exponential of a fixed-point number. -/
def exponential (negative : Bool) (x : Int) : Binary64 :=
  let exponent := x / logTwo
  let mantissa := (exponentialSeries (x - exponent * logTwo) 120 fixedOne 1).toNat
  if exponent > 1100 then .infinite negative
  else if exponent < -1200 then .finite ⟨negative, .zero⟩
  else if exponent < 0 then ofRatio negative mantissa (2 ^ 400 * 2 ^ exponent.natAbs)
  else ofRatio negative (mantissa * 2 ^ exponent.natAbs) (2 ^ 400)

/-! ## Powers -/

/-- The greatest whole exponent for which a power is computed exactly. -/
def exactPowerLimit : Nat := 64

def Magnitude.pow (negative : Bool) (m : Magnitude) (y : Finite) : Binary64 :=
  let count := y.magnitude.units / unitsOfOne
  if y.magnitude.units % unitsOfOne = 0 ∧ count ≤ exactPowerLimit then
    if y.negative then ofRatio negative (unitsOfOne ^ count) (m.units ^ count)
    else ofRatio negative (m.units ^ count) (unitsOfOne ^ count)
  else exponential negative (m.log * y.signedUnits / unitsOfOne)

def Finite.isOdd (x : Finite) : Bool :=
  x.magnitude.units % (2 * unitsOfOne) = unitsOfOne

def Finite.isWhole (x : Finite) : Bool := x.magnitude.units % unitsOfOne = 0

def one : Binary64 := ofInt 1

def pow (x y : Binary64) : Binary64 :=
  if y.isZero || decide (x = one) then one
  else
    match x, y with
    | .nan, _ => .nan
    | _, .nan => .nan
    | .finite x, .infinite negative =>
      if x.magnitude.units = unitsOfOne then one
      else if decide (x.magnitude.units < unitsOfOne) = negative then .infinite false
      else zero
    | .infinite _, .infinite negative => if negative then zero else .infinite false
    | .infinite s, .finite y =>
      let negative := s && y.isOdd
      if y.negative then .finite ⟨negative, .zero⟩ else .infinite negative
    | .finite x, .finite y =>
      let negative := x.negative && y.isOdd
      if x.magnitude.isZero then
        if y.negative then .infinite negative else .finite ⟨negative, .zero⟩
      else if x.negative && !y.isWhole then .nan
      else x.magnitude.pow negative y

/-! ## Whole numbers -/

/-- The nearest whole number; of two equally near ones the one further from zero. -/
def round : Binary64 → Binary64
  | .finite x =>
    ofUnits x.negative ((2 * x.magnitude.units + unitsOfOne) / (2 * unitsOfOne) * unitsOfOne) 1
  | x => x

/-- The integer part of a number; zero for what is not a number, and at most `limit` in size. -/
def toIntWithin (limit : Nat) : Binary64 → Int
  | .nan => 0
  | .infinite negative => if negative then -(limit : Int) else limit - 1
  | .finite x =>
    let whole := x.magnitude.units / unitsOfOne
    if x.negative then -((min whole limit : Nat) : Int) else ((min whole (limit - 1) : Nat) : Int)

end Phrasebook.Binary64
