import Phrasebook.Binary64.Digits

/-!
# The decimal logarithm, rounded down

The logarithm is first rounded to the nearest floating point number, so a magnitude just below a
power of ten can count as that power.
-/

namespace Phrasebook.Binary64

/-- Half the distance from a non-zero integer to the next smaller floating point number, in units
of `2 ^ -60`. -/
def halfGapBelow (k : Int) : Nat :=
  let top := k.natAbs.log2
  if 0 < k ∧ k.natAbs = 2 ^ top then 2 ^ (top + 6) else 2 ^ (top + 7)

/-- The natural logarithm of ten in units of `10 ^ -18`. -/
def logTen : Nat := 2302585092994045684

namespace Magnitude

/-- Whether the logarithm of a magnitude below `10 ^ k` rounds to `k`. It is taken to be rounded to
the nearest number, which not every library does: next to a power of ten, as at 999.9999999999994, a
logarithm can come out as `k` though `k` is not the nearest number. -/
def roundsUpTo (m : Magnitude) (k : Int) : Bool :=
  let one := 2 ^ 60 * 10 ^ 18
  let fraction := one - logTen * halfGapBelow k
  decide (k ≠ 0) &&
    if k < 0 then decide (fraction * unitsOfOne ≤ m.units * 10 ^ k.natAbs * one)
    else decide (fraction * unitsOfOne * 10 ^ k.natAbs ≤ m.units * one)

/-- The decimal logarithm rounded down, for a magnitude that is not zero. -/
def logFloor (m : Magnitude) : Int :=
  if m.roundsUpTo (m.decade + 1) then m.decade + 1 else m.decade

end Magnitude

end Phrasebook.Binary64
