import Mathlib.Algebra.Order.Ring.Abs
import Mathlib.Algebra.Order.Ring.Pow
import Mathlib.Data.Nat.Cast.Order.Field
import Mathlib.Order.WithBot
import Phrasebook.Proofs.Binary64.Arithmetic
import Phrasebook.Proofs.Decimal.Rounding

/-!
# Accuracy of rounded arithmetic

Rounding is monotone, and it errs by one part in `2 ^ 53` at most unless the result is tiny. A power
of ten therefore errs by no more than its exponent in these parts, and powers of ten grow with their
exponents.
-/

namespace Phrasebook.Binary64

attribute [local irreducible] unitsOfOne unitLimit

/-! ## Rounding is monotone -/

theorem roundUnits_le_two_pow (n : Nat) {d : Nat} (hd : 0 < d) :
    roundUnits n d ≤ 2 ^ ((n / d).log2 + 1) := by
  obtain ⟨top, htop⟩ : ∃ top, (n / d).log2 = top := ⟨_, rfl⟩
  have hspare : spareBits (n / d) = top - 52 := by rw [spareBits, htop]
  have hspacing : 0 < d * 2 ^ (top - 52) := Nat.mul_pos hd (Nat.two_pow_pos _)
  have hbelow : n ≤ 2 ^ (top + 1) * d := by
    have hlt : n / d < 2 ^ (top + 1) := htop ▸ Nat.lt_log2_self
    rw [Nat.div_lt_iff_lt_mul hd] at hlt
    exact hlt.le
  have hsplit : 2 ^ (top + 1 - (top - 52)) * 2 ^ (top - 52) = 2 ^ (top + 1) := by
    rw [← Nat.pow_add]
    congr 1
    omega
  have hround : roundHalfEven n (d * 2 ^ (top - 52)) ≤ 2 ^ (top + 1 - (top - 52)) := by
    have hcross : n * 1 ≤ 2 ^ (top + 1 - (top - 52)) * (d * 2 ^ (top - 52)) := by
      rw [Nat.mul_one, Nat.mul_left_comm, hsplit, Nat.mul_comm d]
      exact hbelow
    have hmono := roundHalfEven_mono hspacing Nat.one_pos hcross
    rwa [roundHalfEven_one] at hmono
  rw [roundUnits, spacing, hspare, htop, ← hsplit]
  exact Nat.mul_le_mul_right _ hround

theorem roundUnits_mono {n d m e : Nat} (hd : 0 < d) (he : 0 < e) (h : n * e ≤ m * d) :
    roundUnits n d ≤ roundUnits m e := by
  have hdiv : n / d ≤ m / e := by
    rw [Nat.le_div_iff_mul_le he]
    refine Nat.le_of_mul_le_mul_right ?_ hd
    calc
      n / d * e * d = n / d * d * e := Nat.mul_right_comm _ _ _
      _ ≤ n * e := Nat.mul_le_mul_right e (Nat.div_mul_le_self n d)
      _ ≤ m * d := h
  by_cases hlog : (n / d).log2 = (m / e).log2
  · have hspacing : spacing (n / d) = spacing (m / e) := by rw [spacing, spareBits, hlog]; rfl
    rw [roundUnits, roundUnits, hspacing]
    apply Nat.mul_le_mul_right
    have hpos := spacing_pos (m / e)
    apply roundHalfEven_mono (Nat.mul_pos hd hpos) (Nat.mul_pos he hpos)
    rw [← Nat.mul_assoc, ← Nat.mul_assoc]
    exact Nat.mul_le_mul_right _ h
  · have hne : m / e ≠ 0 := by
      intro hzero
      rw [hzero, Nat.le_zero] at hdiv
      rw [hzero, hdiv] at hlog
      exact hlog rfl
    have hlt : (n / d).log2 < (m / e).log2 := by
      refine lt_of_le_of_ne ?_ hlog
      rcases Nat.eq_zero_or_pos (n / d) with hzero | hpos
      · rw [hzero]
        exact Nat.zero_le _
      · rw [Nat.le_log2 hne]
        exact (Nat.log2_self_le hpos.ne').trans hdiv
    calc
      roundUnits n d ≤ 2 ^ ((n / d).log2 + 1) := roundUnits_le_two_pow n hd
      _ ≤ 2 ^ (m / e).log2 := Nat.pow_le_pow_right (by decide) hlt
      _ ≤ roundUnits m e := two_pow_le_roundUnits (Nat.log2_self_le hne)

theorem ofUnits_congr {negative : Bool} {n d m e : Nat} (hd : 0 < d) (he : 0 < e)
    (h : n * e = m * d) : ofUnits negative n d = ofUnits negative m e := by
  have hround : roundUnits n d = roundUnits m e :=
    Nat.le_antisymm (roundUnits_mono hd he h.le) (roundUnits_mono he hd h.ge)
  unfold ofUnits Magnitude.round?
  simp only [hround]

theorem spare_dvd_unitsOfOne_mul_two_pow (k : Nat) :
    2 ^ spareBits (unitsOfOne * 2 ^ k) ∣ unitsOfOne * 2 ^ k := by
  have hpower := spare_dvd_of_le (by decide : 1 ≤ 2 ^ 53) (1074 + k)
  rwa [Nat.one_mul, ← unitsOfOne_mul_two_pow] at hpower

theorem unitsOfOne_mul_two_pow_lt {k : Nat} (hk : k < 1024) : unitsOfOne * 2 ^ k < unitLimit := by
  rw [unitLimit_eq]
  apply Nat.mul_lt_mul_of_pos_left _ unitsOfOne_pos
  exact Nat.pow_lt_pow_right (by decide) hk

/-- What is at most a power of two in the finite numbers is not rounded beyond it. -/
theorem roundUnits_lt_unitLimit {n d k : Nat} (hd : 0 < d) (hk : k < 1024)
    (h : n ≤ unitsOfOne * 2 ^ k * d) : roundUnits n d < unitLimit :=
  calc
    roundUnits n d ≤ roundUnits (unitsOfOne * 2 ^ k) 1 :=
      roundUnits_mono hd Nat.one_pos (by rwa [Nat.mul_one])
    _ = unitsOfOne * 2 ^ k := roundUnits_one_of_dvd (spare_dvd_unitsOfOne_mul_two_pow k)
    _ < unitLimit := unitsOfOne_mul_two_pow_lt hk

theorem roundUnits_natAbs_lt_unitLimit {i : Int} (hi : i.natAbs ≤ 2 ^ 127) :
    roundUnits (i.natAbs * unitsOfOne) 1 < unitLimit := by
  apply roundUnits_lt_unitLimit Nat.one_pos (by decide : 127 < 1024)
  rw [Nat.mul_one, Nat.mul_comm]
  exact Nat.mul_le_mul_left _ hi

theorem exists_ofInt_eq_finite {i : Int} (hi : i.natAbs ≤ 2 ^ 127) :
    ∃ x : Finite, ofInt i = .finite x := by
  obtain ⟨m, -, hfinite⟩ :=
    ofUnits_of_lt (decide (i < 0)) (roundUnits_natAbs_lt_unitLimit hi)
  exact ⟨_, hfinite⟩

/-- The size of a number in units. Infinite numbers are greater than all others. -/
def size : Binary64 → WithTop Nat
  | .finite x => (x.magnitude.units : WithTop Nat)
  | _ => ⊤

theorem size_lt_top_iff {x : Binary64} : x.size < ⊤ ↔ ∃ y, x = .finite y := by
  match x with
  | .nan => exact iff_of_false (lt_irrefl _) nofun
  | .infinite _ => exact iff_of_false (lt_irrefl _) nofun
  | .finite y => exact iff_of_true (WithTop.coe_lt_top _) ⟨y, rfl⟩

theorem size_ofUnits (negative : Bool) (n d : Nat) :
    (ofUnits negative n d).size =
      if roundUnits n d < unitLimit then (roundUnits n d : WithTop Nat) else ⊤ := by
  by_cases hlt : roundUnits n d < unitLimit
  · obtain ⟨m, hunits, hfinite⟩ := ofUnits_of_lt negative hlt
    rw [if_pos hlt, hfinite, size, hunits]
  · rw [if_neg hlt, ofUnits_of_le negative (Nat.not_lt.1 hlt), size]
    nofun

theorem size_ofUnits_mono {negative other : Bool} {n d m e : Nat} (hd : 0 < d) (he : 0 < e)
    (h : n * e ≤ m * d) : (ofUnits negative n d).size ≤ (ofUnits other m e).size := by
  have hround := roundUnits_mono hd he h
  rw [size_ofUnits, size_ofUnits]
  by_cases hlt : roundUnits m e < unitLimit
  · rw [if_pos hlt, if_pos (hround.trans_lt hlt)]
    exact_mod_cast hround
  · rw [if_neg hlt]
    exact le_top

/-- Quotients get smaller when divisors get greater. -/
theorem size_div_anti (x : Finite) {y z : Binary64} (hz : z ≠ .nan) (h : y.size ≤ z.size) :
    ((finite x).div z).size ≤ ((finite x).div y).size := by
  match y, z with
  | _, .nan => exact (hz rfl).elim
  | _, .infinite negative => exact bot_le
  | .nan, .finite z => exact absurd h (by simp [size])
  | .infinite negative, .finite z => exact absurd h (by simp [size])
  | .finite y, .finite z =>
      have hle : y.magnitude.units ≤ z.magnitude.units := WithTop.coe_le_coe.1 h
      cases hy : y.magnitude.isZero with
      | true =>
          simp only [div, hy, if_true]
          cases x.magnitude.isZero <;> exact le_top
      | false =>
          have hpos : 0 < y.magnitude.units := by
            rw [Magnitude.isZero, beq_eq_false_iff_ne] at hy
            exact Nat.pos_of_ne_zero hy
          have hpos' : 0 < z.magnitude.units := hpos.trans_le hle
          rw [div_eq_ofUnits x hpos.ne', div_eq_ofUnits x hpos'.ne']
          apply size_ofUnits_mono hpos' hpos
          exact Nat.mul_le_mul_left _ hle

/-! ## Relative errors -/

/-- The value of a magnitude. -/
def Magnitude.value (m : Magnitude) : ℚ := m.units / unitsOfOne

/-- The value that finite numbers stay below. -/
def finiteLimit : ℚ := unitLimit / unitsOfOne

/-- The greatest relative error of one rounding. -/
def roundoff : ℚ := 1 / 2 ^ 53

theorem roundoff_pos : 0 < roundoff := by norm_num [roundoff]

theorem roundoff_lt_one : roundoff < 1 := by norm_num [roundoff]

theorem one_sub_roundoff_pos : 0 < 1 - roundoff := sub_pos.2 roundoff_lt_one

theorem unitsOfOne_cast_pos : (0 : ℚ) < unitsOfOne := by exact_mod_cast unitsOfOne_pos

theorem Magnitude.value_nonneg (m : Magnitude) : 0 ≤ m.value :=
  div_nonneg (Nat.cast_nonneg _) unitsOfOne_cast_pos.le

theorem Magnitude.value_of_units {m : Magnitude} {n : Nat} (hm : m.units = n * unitsOfOne) :
    m.value = n := by
  rw [value, hm, Nat.cast_mul, mul_div_cancel_right₀ _ unitsOfOne_cast_pos.ne']

theorem Magnitude.units_pos {m : Magnitude} (hm : 0 < m.value) : 0 < m.units := by
  rw [Magnitude.value, div_pos_iff_of_pos_right unitsOfOne_cast_pos] at hm
  exact_mod_cast hm

theorem Magnitude.value_lt (m : Magnitude) : m.value < finiteLimit := by
  apply div_lt_div_of_pos_right _ unitsOfOne_cast_pos
  exact_mod_cast m.units_lt

theorem one_le_finiteLimit : 1 ≤ finiteLimit := by
  rw [finiteLimit, one_le_div unitsOfOne_cast_pos, unitLimit_eq]
  exact_mod_cast Nat.le_mul_of_pos_right _ (Nat.two_pow_pos _)

theorem abs_roundUnits_sub_le (n : Nat) {d : Nat} (hd : 0 < d) :
    |(roundUnits n d : ℚ) - n / d| ≤ spacing (n / d) / 2 := by
  have hspacing : (0 : ℚ) < spacing (n / d) := by exact_mod_cast spacing_pos (n / d)
  have hd' : (d : ℚ) ≠ 0 := by exact_mod_cast hd.ne'
  have hround := abs_roundHalfEven_sub_le n (Nat.mul_pos hd (spacing_pos (n / d)))
  have hscaled : (roundUnits n d : ℚ) - n / d =
      ((roundHalfEven n (d * spacing (n / d)) : ℚ) - n / ((d * spacing (n / d) : Nat) : ℚ)) *
        spacing (n / d) := by
    rw [roundUnits]
    push_cast
    field_simp
  rw [hscaled, abs_mul, abs_of_pos hspacing]
  calc
    _ ≤ 1 / 2 * (spacing (n / d) : ℚ) := mul_le_mul_of_nonneg_right hround hspacing.le
    _ = spacing (n / d) / 2 := by ring

/-- Above the tiny numbers the spacing is one part in `2 ^ 52` at most. -/
theorem spacing_mul_le {units : Nat} (h : 2 ^ 52 ≤ units) : spacing units * 2 ^ 52 ≤ units := by
  have hne : units ≠ 0 := by
    have hpos := Nat.two_pow_pos 52
    omega
  have hlog : 52 ≤ units.log2 := (Nat.le_log2 hne).2 h
  rw [spacing, spareBits, ← Nat.pow_add, Nat.sub_add_cancel hlog]
  exact Nat.log2_self_le hne

theorem abs_roundUnits_sub_le_mul {n d : Nat} (hd : 0 < d) (h : 2 ^ 52 ≤ n / d) :
    |(roundUnits n d : ℚ) - n / d| ≤ n / d * roundoff := by
  have hspacing : (spacing (n / d) : ℚ) * 2 ^ 52 ≤ n / d := by
    calc
      (spacing (n / d) : ℚ) * 2 ^ 52 ≤ (n / d : Nat) := by exact_mod_cast spacing_mul_le h
      _ ≤ n / d := Nat.cast_div_le
  calc
    _ ≤ (spacing (n / d) : ℚ) / 2 := abs_roundUnits_sub_le n hd
    _ = spacing (n / d) * 2 ^ 52 * roundoff := by
      rw [roundoff]
      ring
    _ ≤ n / d * roundoff := mul_le_mul_of_nonneg_right hspacing roundoff_pos.le

/-- Whether `x` is `v` up to `k` roundings. -/
def Within (v : ℚ) (k : Nat) (x : ℚ) : Prop :=
  v * (1 - roundoff) ^ k ≤ x ∧ x * (1 - roundoff) ^ k ≤ v

theorem one_sub_roundoff_pow_pos (k : Nat) : 0 < (1 - roundoff) ^ k :=
  pow_pos one_sub_roundoff_pos k

theorem one_sub_roundoff_pow_le_one (k : Nat) : (1 - roundoff) ^ k ≤ 1 :=
  pow_le_one₀ one_sub_roundoff_pos.le (by linarith [roundoff_pos])

namespace Within

variable {v w x y : ℚ} {j k : Nat}

theorem refl (v : ℚ) : Within v 0 v := by simp [Within]

theorem symm (h : Within v k x) : Within x k v := ⟨h.2, h.1⟩

theorem trans (h : Within v j w) (h' : Within w k x) : Within v (j + k) x := by
  have hj := (one_sub_roundoff_pow_pos j).le
  have hk := (one_sub_roundoff_pow_pos k).le
  constructor
  · calc
      v * (1 - roundoff) ^ (j + k) = v * (1 - roundoff) ^ j * (1 - roundoff) ^ k := by ring
      _ ≤ w * (1 - roundoff) ^ k := mul_le_mul_of_nonneg_right h.1 hk
      _ ≤ x := h'.1
  · calc
      x * (1 - roundoff) ^ (j + k) = x * (1 - roundoff) ^ k * (1 - roundoff) ^ j := by ring
      _ ≤ w * (1 - roundoff) ^ j := mul_le_mul_of_nonneg_right h'.2 hj
      _ ≤ v := h.2

theorem mul (h : Within v j x) (h' : Within w k y) (hv : 0 ≤ v) (hw : 0 ≤ w) (hx : 0 ≤ x)
    (hy : 0 ≤ y) : Within (v * w) (j + k) (x * y) := by
  have hk := (one_sub_roundoff_pow_pos k).le
  constructor
  · calc
      v * w * (1 - roundoff) ^ (j + k) =
          v * (1 - roundoff) ^ j * (w * (1 - roundoff) ^ k) := by ring
      _ ≤ x * y := mul_le_mul h.1 h'.1 (mul_nonneg hw hk) hx
  · calc
      x * y * (1 - roundoff) ^ (j + k) =
          x * (1 - roundoff) ^ j * (y * (1 - roundoff) ^ k) := by ring
      _ ≤ v * w := mul_le_mul h.2 h'.2 (mul_nonneg hy hk) hv

theorem inv (h : Within v k x) (hv : 0 < v) (hx : 0 < x) : Within v⁻¹ k x⁻¹ := by
  constructor
  · rw [inv_mul_le_iff₀ hv, ← div_eq_mul_inv, le_div_iff₀ hx, mul_comm]
    exact h.2
  · rw [inv_mul_le_iff₀ hx, ← div_eq_mul_inv, le_div_iff₀ hv, mul_comm]
    exact h.1

end Within

theorem within_roundUnits {n d : Nat} (hd : 0 < d) (h : 2 ^ 52 ≤ n / d) :
    Within (n / d / unitsOfOne) 1 (roundUnits n d / unitsOfOne) := by
  obtain ⟨hlow, hhigh⟩ := abs_le.1 (abs_roundUnits_sub_le_mul hd h)
  have hone := unitsOfOne_cast_pos.le
  have hsquare : 0 ≤ (n / d : ℚ) * roundoff * roundoff :=
    mul_nonneg (mul_nonneg (div_nonneg (Nat.cast_nonneg _) (Nat.cast_nonneg _)) roundoff_pos.le)
      roundoff_pos.le
  have hscale : ∀ a : ℚ, a / unitsOfOne * (1 - roundoff) = a * (1 - roundoff) / unitsOfOne :=
    fun a => div_mul_eq_mul_div _ _ _
  rw [Within, pow_one, hscale, hscale]
  constructor
  · apply div_le_div_of_nonneg_right _ hone
    linarith
  · apply div_le_div_of_nonneg_right _ hone
    calc
      (roundUnits n d : ℚ) * (1 - roundoff) ≤ (n / d + n / d * roundoff) * (1 - roundoff) := by
        apply mul_le_mul_of_nonneg_right _ one_sub_roundoff_pos.le
        linarith
      _ = n / d - n / d * roundoff * roundoff := by ring
      _ ≤ n / d := by linarith

/-- Whether a positive number is `v` up to `k` roundings. It is infinite when it would not be below
the limit of the finite numbers. -/
def Near (v : ℚ) (k : Nat) : Binary64 → Prop
  | .nan => False
  | .infinite negative => negative = false ∧ finiteLimit * (1 - roundoff) ^ k ≤ v
  | .finite x => x.negative = false ∧ Within v k x.magnitude.value

theorem near_ofUnits {n d k : Nat} {v : ℚ} (hd : 0 < d) (h : 2 ^ 52 ≤ n / d)
    (hv : Within v k (n / d / unitsOfOne)) : (ofUnits false n d).Near v (k + 1) := by
  have hwithin := hv.trans (within_roundUnits hd h)
  by_cases hlt : roundUnits n d < unitLimit
  · obtain ⟨m, hunits, hfinite⟩ := ofUnits_of_lt false hlt
    rw [hfinite]
    refine ⟨rfl, ?_⟩
    rw [Magnitude.value, hunits]
    exact hwithin
  · rw [ofUnits_of_le false (Nat.not_lt.1 hlt)]
    refine ⟨rfl, le_trans ?_ hwithin.2⟩
    apply mul_le_mul_of_nonneg_right _ (one_sub_roundoff_pow_pos _).le
    apply div_le_div_of_nonneg_right _ unitsOfOne_cast_pos.le
    exact_mod_cast Nat.not_lt.1 hlt

theorem two_pow_le_unitsOfOne : 2 ^ 52 ≤ unitsOfOne := by
  unfold unitsOfOne
  apply Nat.pow_le_pow_right <;> decide

theorem one_le_value {m : Magnitude} (h : unitsOfOne * 2 ^ 0 ≤ m.units) : 1 ≤ m.value := by
  rw [Nat.pow_zero, Nat.mul_one] at h
  rw [Magnitude.value, one_le_div unitsOfOne_cast_pos]
  exact_mod_cast h

theorem Near.pow_le {x : Binary64} {v : ℚ} {k : Nat} (h : x.Near v k) (hx : x.AtLeast 0) :
    (1 - roundoff) ^ k ≤ v := by
  have hk := (one_sub_roundoff_pow_pos k).le
  match x with
  | .nan => exact h.elim
  | .infinite _ => exact (le_mul_of_one_le_left hk one_le_finiteLimit).trans h.2
  | .finite x => exact (le_mul_of_one_le_left hk (one_le_value hx.2)).trans h.2.2

/-- A product with an infinite factor is near when the other factor is at least one. -/
theorem near_infinite {v w : ℚ} {j k : Nat} (hv : finiteLimit * (1 - roundoff) ^ j ≤ v)
    (hw : (1 - roundoff) ^ k ≤ w) (hv' : 0 ≤ v) :
    (infinite false).Near (v * w) (j + k + 1) := by
  have hj := (one_sub_roundoff_pow_pos j).le
  have hk := (one_sub_roundoff_pow_pos k).le
  have hlimit : 0 ≤ finiteLimit := zero_le_one.trans one_le_finiteLimit
  refine ⟨rfl, ?_⟩
  calc
    finiteLimit * (1 - roundoff) ^ (j + k + 1) =
        finiteLimit * (1 - roundoff) ^ j * (1 - roundoff) ^ k * (1 - roundoff) ^ 1 := by ring
    _ ≤ finiteLimit * (1 - roundoff) ^ j * (1 - roundoff) ^ k :=
      mul_le_of_le_one_right (mul_nonneg (mul_nonneg hlimit hj) hk) (one_sub_roundoff_pow_le_one 1)
    _ ≤ v * w := mul_le_mul hv hw hk hv'

theorem Near.mul {x y : Binary64} {v w : ℚ} {j k : Nat} (hx : x.Near v j) (hy : y.Near w k)
    (hx' : x.AtLeast 0) (hy' : y.AtLeast 0) (hv : 0 ≤ v) (hw : 0 ≤ w) :
    (x.mul y).Near (v * w) (j + k + 1) := by
  have hx₁ := hx.pow_le hx'
  have hy₁ := hy.pow_le hy'
  match x, y with
  | .nan, _ => exact hx.elim
  | .infinite _, .nan => exact hy.elim
  | .finite _, .nan => exact hy.elim
  | .infinite s, .infinite t =>
      obtain ⟨rfl, hlimit⟩ := hx
      obtain ⟨rfl, -⟩ := hy
      exact near_infinite hlimit hy₁ hv
  | .infinite s, .finite y =>
      obtain ⟨rfl, hlimit⟩ := hx
      simp only [Binary64.mul, not_isZero_of_le hy'.2, hy'.1, Bool.false_eq_true, if_false]
      exact near_infinite hlimit hy₁ hv
  | .finite x, .infinite t =>
      obtain ⟨rfl, hlimit⟩ := hy
      simp only [Binary64.mul, not_isZero_of_le hx'.2, hx'.1, Bool.false_eq_true, if_false]
      rw [mul_comm v, Nat.add_comm j]
      exact near_infinite hlimit hx₁ hw
  | .finite x, .finite y =>
      obtain ⟨hxs, hxv⟩ := hx
      obtain ⟨hys, hyw⟩ := hy
      have hproduct : ((x.magnitude.units * y.magnitude.units : Nat) : ℚ) / unitsOfOne /
          unitsOfOne = x.magnitude.value * y.magnitude.value := by
        rw [Magnitude.value, Magnitude.value]
        push_cast
        ring
      have hnormal : 2 ^ 52 ≤ x.magnitude.units * y.magnitude.units / unitsOfOne := by
        rw [Nat.le_div_iff_mul_le unitsOfOne_pos]
        have hx₂ : unitsOfOne ≤ x.magnitude.units := Nat.mul_one unitsOfOne ▸ hx'.2
        have hy₂ : unitsOfOne ≤ y.magnitude.units := Nat.mul_one unitsOfOne ▸ hy'.2
        exact Nat.mul_le_mul (two_pow_le_unitsOfOne.trans hx₂) hy₂
      simp only [Binary64.mul, hxs, hys, bne_self_eq_false]
      refine near_ofUnits unitsOfOne_pos hnormal ?_
      rw [hproduct]
      exact hxv.mul hyw hv hw x.magnitude.value_nonneg y.magnitude.value_nonneg

/-- A factor counts for its own roundings and for the one of its multiplication. -/
theorem Near.go {square product : Binary64} {v w : ℚ} {j k : Nat} (n : Nat)
    (hsquare : square.Near v j) (hproduct : product.Near w k) (hsquare' : square.AtLeast 0)
    (hproduct' : product.AtLeast 0) (hv : 0 ≤ v) (hw : 0 ≤ w) :
    (powNat.go square n product).Near (v ^ n * w) (n * (j + 1) + k) := by
  induction n using Nat.strongRecOn generalizing square product v w j k with
  | ind n ih =>
      obtain ⟨next, hnext⟩ :
          ∃ next, (if n % 2 = 1 then product.mul square else product) = next := ⟨_, rfl⟩
      have hnear : next.Near (v ^ (n % 2) * w) (n % 2 * (j + 1) + k) ∧ next.AtLeast 0 := by
        rcases Nat.mod_two_eq_zero_or_one n with hparity | hparity
        · rw [if_neg (by omega)] at hnext
          rw [← hnext, hparity]
          simpa using And.intro hproduct hproduct'
        · rw [if_pos hparity] at hnext
          rw [← hnext, hparity]
          refine ⟨?_, by simpa using hproduct'.mul hsquare'⟩
          have hmul := hproduct.mul hsquare hproduct' hsquare' hw hv
          rw [pow_one, mul_comm v w, show 1 * (j + 1) + k = k + j + 1 by omega]
          exact hmul
      have hpower : v ^ n = (v * v) ^ (n / 2) * v ^ (n % 2) := by
        rw [← pow_two, ← pow_mul, ← pow_add, Nat.div_add_mod]
      unfold powNat.go
      simp only [hnext]
      split
      · next hhalf =>
          have hsmall : n % 2 = n := by omega
          rw [hsmall] at hnear
          exact hnear.1
      · next hhalf =>
          have hdouble := hsquare.mul hsquare hsquare' hsquare' hv hv
          have hrest := ih (n / 2) (by omega) hdouble hnear.1
            (by simpa using hsquare'.mul hsquare') hnear.2 (mul_nonneg hv hv)
            (mul_nonneg (pow_nonneg hv _) hw)
          have hcount : n / 2 * (j + j + 1 + 1) + (n % 2 * (j + 1) + k) = n * (j + 1) + k := by
            have hsplit := Nat.div_add_mod n 2
            calc
              n / 2 * (j + j + 1 + 1) + (n % 2 * (j + 1) + k) =
                  (2 * (n / 2) + n % 2) * (j + 1) + k := by ring
              _ = n * (j + 1) + k := by rw [hsplit]
          rw [hpower, mul_assoc, ← hcount]
          exact hrest

end Phrasebook.Binary64
