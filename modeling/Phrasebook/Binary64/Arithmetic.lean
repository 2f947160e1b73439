import Phrasebook.Binary64.Basic

/-!
# Arithmetic

Every operation computes its exact result and rounds once.
-/

namespace Phrasebook.Binary64

def Finite.signedUnits (x : Finite) : Int :=
  if x.negative then -(x.magnitude.units : Int) else x.magnitude.units

def mul : Binary64 → Binary64 → Binary64
  | .finite x, .finite y =>
    ofUnits (x.negative != y.negative) (x.magnitude.units * y.magnitude.units) unitsOfOne
  | .infinite s, .finite y =>
    if y.magnitude.isZero then .nan else .infinite (s != y.negative)
  | .finite x, .infinite t =>
    if x.magnitude.isZero then .nan else .infinite (x.negative != t)
  | .infinite s, .infinite t => .infinite (s != t)
  | _, _ => .nan

def div : Binary64 → Binary64 → Binary64
  | .finite x, .finite y =>
    if y.magnitude.isZero then
      if x.magnitude.isZero then .nan else .infinite (x.negative != y.negative)
    else
      ofUnits (x.negative != y.negative) (x.magnitude.units * unitsOfOne) y.magnitude.units
  | .finite x, .infinite t => .finite ⟨x.negative != t, .zero⟩
  | .infinite s, .finite y => .infinite (s != y.negative)
  | _, _ => .nan

def add : Binary64 → Binary64 → Binary64
  | .finite x, .finite y =>
    let sum := x.signedUnits + y.signedUnits
    let negative := if sum = 0 then x.negative && y.negative else decide (sum < 0)
    ofUnits negative sum.natAbs 1
  | .infinite s, .infinite t => if s = t then .infinite s else .nan
  | .infinite s, .finite _ => .infinite s
  | .finite _, .infinite t => .infinite t
  | _, _ => .nan

def sub (x y : Binary64) : Binary64 := x.add y.neg

/-- The remainder of division towards zero; it has the sign of the dividend. -/
def rem : Binary64 → Binary64 → Binary64
  | .finite x, .finite y =>
    if y.magnitude.isZero then .nan
    else ofUnits x.negative (x.magnitude.units % y.magnitude.units) 1
  | .finite x, .infinite _ => .finite x
  | _, _ => .nan

def trunc : Binary64 → Binary64
  | .finite x => ofUnits x.negative (x.magnitude.units / unitsOfOne * unitsOfOne) 1
  | x => x

def compare? : Binary64 → Binary64 → Option Ordering
  | .finite x, .finite y => some (compare x.signedUnits y.signedUnits)
  | .infinite s, .infinite t => some (if s = t then .eq else if s then .lt else .gt)
  | .infinite s, .finite _ => some (if s then .lt else .gt)
  | .finite _, .infinite t => some (if t then .gt else .lt)
  | _, _ => none

/-- The quotient rounded so that the remainder is not negative. -/
def divEuclid (x y : Binary64) : Binary64 :=
  let quotient := (x.div y).trunc
  if (x.rem y).isNegative then
    if y.isNegative then quotient.add (ofInt 1) else quotient.sub (ofInt 1)
  else quotient

/-- `x` raised to a natural power by repeated squaring, every product rounded. -/
def powNat (x : Binary64) (n : Nat) : Binary64 :=
  go x n (ofInt 1)
where
  go (square : Binary64) (n : Nat) (product : Binary64) : Binary64 :=
    let product := if n % 2 = 1 then product.mul square else product
    if h : n / 2 = 0 then product else go (square.mul square) (n / 2) product
  termination_by n
  decreasing_by omega

/-- Ten raised to an integer power; a negative power is the reciprocal of the positive one. -/
def powTen (e : Int) : Binary64 :=
  let power := (ofInt 10).powNat e.natAbs
  if e < 0 then (ofInt 1).div power else power

/-- The whole number that a finite number is, if it is one. -/
def toInt? : Binary64 → Option Int
  | .finite x =>
    if x.magnitude.units % unitsOfOne = 0 then some (x.signedUnits / unitsOfOne) else none
  | _ => none

end Phrasebook.Binary64
