import Phrasebook.Decimal.Digits

/-!
# Binary floating point numbers of 64 bits

The magnitude of a finite number is a count of units of `2 ^ -1074`, the least positive number.
It has at most 53 significant bits and stays below `2 ^ 2098` units. So all arithmetic is exact
arithmetic on naturals, followed by one rounding to the nearest magnitude, ties to even.
-/

namespace Phrasebook

/-- The integer nearest to `n / d`; of two equally near ones the even one. -/
def roundHalfEven (n d : Nat) : Nat :=
  if d < 2 * (n % d) ∨ (2 * (n % d) = d ∧ n / d % 2 = 1) then n / d + 1 else n / d

theorem div_le_roundHalfEven (n d : Nat) : n / d ≤ roundHalfEven n d := by
  unfold roundHalfEven
  split <;> omega

theorem roundHalfEven_le_div_add_one (n d : Nat) : roundHalfEven n d ≤ n / d + 1 := by
  unfold roundHalfEven
  split <;> omega

@[simp] theorem roundHalfEven_one (n : Nat) : roundHalfEven n 1 = n := by
  simp [roundHalfEven, Nat.mod_one]

namespace Binary64

/-- The bits of `units` beyond the 53 that a significand holds. -/
def spareBits (units : Nat) : Nat := units.log2 - 52

/-- One past the units of the greatest magnitude. -/
def unitLimit : Nat := 2 ^ 2098

theorem unitLimit_pos : 0 < unitLimit := by
  unfold unitLimit
  apply Nat.two_pow_pos

/-- The units that make up `1`. -/
def unitsOfOne : Nat := 2 ^ 1074

/-- A magnitude: a count of units of `2 ^ -1074` that fits a significand. -/
structure Magnitude where
  units : Nat
  units_lt : units < unitLimit
  spare_dvd : 2 ^ spareBits units ∣ units
deriving DecidableEq

/-- The spacing of magnitudes around one of `units` units. -/
def spacing (units : Nat) : Nat := 2 ^ spareBits units

/-- The count nearest to `n / d` units that fits a significand of 53 bits. -/
def roundUnits (n d : Nat) : Nat :=
  roundHalfEven n (d * spacing (n / d)) * spacing (n / d)

theorem spare_dvd_of_le {m : Nat} (hm : m ≤ 2 ^ 53) (k : Nat) :
    2 ^ spareBits (m * 2 ^ k) ∣ m * 2 ^ k := by
  rcases Nat.eq_zero_or_pos m with rfl | hpos
  · simp
  have hne : m * 2 ^ k ≠ 0 := Nat.mul_ne_zero (by omega) (by simp)
  rcases Nat.lt_or_eq_of_le hm with hlt | rfl
  · have hlog : (m * 2 ^ k).log2 < 53 + k := by
      rw [Nat.log2_lt hne, Nat.pow_add]
      exact Nat.mul_lt_mul_of_pos_right hlt (Nat.two_pow_pos k)
    have hle : spareBits (m * 2 ^ k) ≤ k := by
      unfold spareBits
      omega
    exact Nat.dvd_trans (Nat.pow_dvd_pow 2 hle) (Nat.dvd_mul_left _ _)
  · rw [← Nat.pow_add]
    apply Nat.pow_dvd_pow
    unfold spareBits
    rw [Nat.log2_two_pow]
    omega

theorem roundHalfEven_spacing_le (n d : Nat) :
    roundHalfEven n (d * spacing (n / d)) ≤ 2 ^ 53 := by
  have hdiv : n / (d * spacing (n / d)) < 2 ^ 53 := by
    rw [← Nat.div_div_eq_div_mul]
    apply Nat.div_lt_of_lt_mul
    rcases Nat.eq_zero_or_pos (n / d) with h | h
    · rw [h]
      simp [spacing, spareBits]
    have hlt : n / d < 2 ^ ((n / d).log2 + 1) := Nat.lt_log2_self
    have hle : 2 ^ ((n / d).log2 + 1) ≤ 2 ^ spareBits (n / d) * 2 ^ 53 := by
      rw [← Nat.pow_add]
      apply Nat.pow_le_pow_right (by decide)
      unfold spareBits
      omega
    exact Nat.lt_of_lt_of_le hlt hle
  have := roundHalfEven_le_div_add_one n (d * spacing (n / d))
  omega

theorem spare_dvd_roundUnits (n d : Nat) :
    2 ^ spareBits (roundUnits n d) ∣ roundUnits n d :=
  spare_dvd_of_le (roundHalfEven_spacing_le n d) _

namespace Magnitude

/-- The magnitude nearest to `n / d` units, unless it is too great. -/
def round? (n d : Nat) : Option Magnitude :=
  if h : roundUnits n d < unitLimit then some ⟨roundUnits n d, h, spare_dvd_roundUnits n d⟩
  else none

def zero : Magnitude := ⟨0, unitLimit_pos, Nat.dvd_zero _⟩

def isZero (m : Magnitude) : Bool := m.units == 0

end Magnitude

/-- A finite number. Zero has two signs. -/
structure Finite where
  negative : Bool
  magnitude : Magnitude
deriving DecidableEq

end Binary64

inductive Binary64
  | nan
  | infinite (negative : Bool)
  | finite (x : Binary64.Finite)
deriving DecidableEq

namespace Binary64

/-- The number nearest to `n / d` units; infinite when no finite number is that great. -/
def ofUnits (negative : Bool) (n d : Nat) : Binary64 :=
  match Magnitude.round? n d with
  | some m => .finite ⟨negative, m⟩
  | none => .infinite negative

/-- The number nearest to `n / d`. -/
def ofRatio (negative : Bool) (n d : Nat) : Binary64 :=
  ofUnits negative (n * unitsOfOne) d

def ofInt (i : Int) : Binary64 :=
  ofRatio (decide (i < 0)) i.natAbs 1

def zero : Binary64 := .finite ⟨false, .zero⟩

def isNegative : Binary64 → Bool
  | .nan => false
  | .infinite negative => negative
  | .finite x => x.negative && !x.magnitude.isZero

def isZero : Binary64 → Bool
  | .finite x => x.magnitude.isZero
  | _ => false

def abs : Binary64 → Binary64
  | .nan => .nan
  | .infinite _ => .infinite false
  | .finite x => .finite { x with negative := false }

def neg : Binary64 → Binary64
  | .nan => .nan
  | .infinite negative => .infinite !negative
  | .finite x => .finite { x with negative := !x.negative }

end Binary64

end Phrasebook
