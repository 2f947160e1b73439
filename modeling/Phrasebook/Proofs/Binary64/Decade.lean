import Phrasebook.Binary64.Digits
import Phrasebook.Binary64.Logarithm
import Phrasebook.Proofs.Binary64.PowerOfTen

/-!
# Decades

The decade of a magnitude brackets its value between two powers of ten. The rounded logarithm is the
decade or, for values just below a power of ten, the exponent of that power.
-/

namespace Phrasebook.Binary64.Magnitude

attribute [local irreducible] unitsOfOne unitLimit

theorem ten_zpow_pos (e : Int) : (0 : ℚ) < 10 ^ e := zpow_pos (by norm_num) e

theorem unitsOfOne_le_ten_pow : unitsOfOne ≤ 10 ^ 324 := by
  unfold unitsOfOne
  calc
    2 ^ 1074 = (2 ^ 179) ^ 6 := by rw [← Nat.pow_mul]
    _ ≤ (10 ^ 162) ^ 2 := by norm_num
    _ = 10 ^ 324 := by rw [← Nat.pow_mul]

/-- The digits of the value in steps of `10 ^ -324`, of which a magnitude has at least one. -/
theorem decade_spec {m : Magnitude} (hm : m.isZero = false) :
    10 ^ m.decade ≤ m.value ∧ m.value < 10 ^ (m.decade + 1) := by
  obtain ⟨steps, hsteps⟩ : ∃ steps, m.units * 10 ^ 324 / unitsOfOne = steps := ⟨_, rfl⟩
  obtain ⟨length, hlength⟩ : ∃ length, (digits steps).length = length + 1 := by
    exact Nat.exists_eq_add_one_of_ne_zero (List.length_pos_iff.2 (digits_ne_nil steps)).ne'
  have hdecade : m.decade = (length : Int) - 324 := by
    rw [decade, hsteps, hlength]
    omega
  have hpos : 0 < steps := by
    rw [isZero, beq_eq_false_iff_ne] at hm
    rw [← hsteps]
    apply Nat.div_pos _ unitsOfOne_pos
    exact unitsOfOne_le_ten_pow.trans (Nat.le_mul_of_pos_left _ (Nat.pos_of_ne_zero hm))
  have hlow : 10 ^ length ≤ steps := by
    rcases Nat.eq_zero_or_pos length with rfl | hlength'
    · exact hpos
    · by_contra hlt
      have hle := (length_digits_le_iff hlength').2 (Nat.not_le.1 hlt)
      omega
  have hhigh : steps < 10 ^ (length + 1) := (length_digits_le_iff (Nat.succ_pos _)).1 hlength.le
  have hbelow : 10 ^ length * unitsOfOne ≤ m.units * 10 ^ 324 := by
    rw [← Nat.le_div_iff_mul_le unitsOfOne_pos, hsteps]
    exact hlow
  have habove : m.units * 10 ^ 324 < 10 ^ (length + 1) * unitsOfOne := by
    rw [← Nat.div_lt_iff_lt_mul unitsOfOne_pos, hsteps]
    exact hhigh
  have hscale : (0 : ℚ) < 10 ^ 324 := by positivity
  have hpower : ∀ count : Nat, (10 : ℚ) ^ ((count : Int) - 324) = 10 ^ count / 10 ^ 324 :=
    fun count => by
      rw [zpow_sub₀ (by norm_num), zpow_natCast]
      rfl
  have hnext : m.decade + 1 = ((length + 1 : Nat) : Int) - 324 := by omega
  rw [hnext, hdecade, hpower, hpower, value, div_le_div_iff₀ hscale unitsOfOne_cast_pos,
    div_lt_div_iff₀ unitsOfOne_cast_pos hscale]
  exact ⟨by exact_mod_cast hbelow, by exact_mod_cast habove⟩

theorem decade_le (m : Magnitude) (hm : m.isZero = false) : m.decade ≤ 308 := by
  by_contra hgreat
  have hpow : (10 : ℚ) ^ 309 ≤ 10 ^ m.decade := by
    have hmono := zpow_le_zpow_right₀ (by norm_num : (1 : ℚ) ≤ 10) (by omega : 309 ≤ m.decade)
    exact_mod_cast hmono
  have hlimit : finiteLimit ≤ (10 : ℚ) ^ 309 :=
    finiteLimit_le_ten_pow.trans (mul_le_of_le_one_right (by positivity) (by norm_num))
  exact absurd (hlimit.trans (hpow.trans (decade_spec hm).1)) (not_le.2 m.value_lt)

/-- Between 8 and 10 the spacing of magnitudes is `2 ^ -49`, and 10 is one of them. -/
theorem value_le_of_lt_ten {m : Magnitude} (h : m.value < 10) : m.value ≤ 10 - 1 / 2 ^ 49 := by
  have hone := unitsOfOne_cast_pos
  rw [value, div_lt_iff₀ hone] at h
  have hunits : m.units < 10 * unitsOfOne := by exact_mod_cast h
  have hsplit : unitsOfOne = 2 ^ 49 * 2 ^ 1025 := by
    unfold unitsOfOne
    rw [← Nat.pow_add]
  have hgap : m.units + 2 ^ 1025 ≤ 10 * unitsOfOne := by
    rcases Nat.lt_or_ge m.units (2 ^ 52 * 2 ^ 1025) with hlt | hge
    · omega
    · have hspare : 1025 ≤ spareBits m.units := by
        have hne : m.units ≠ 0 := (Nat.lt_of_lt_of_le (by simp) hge).ne'
        have hlog : 52 + 1025 ≤ m.units.log2 := (Nat.le_log2 hne).2 (Nat.pow_add 2 52 1025 ▸ hge)
        unfold spareBits
        omega
      obtain ⟨k, hk⟩ := (Nat.pow_dvd_pow 2 hspare).trans m.spare_dvd
      rw [hk, hsplit, ← Nat.mul_assoc, Nat.mul_comm _ k] at hunits
      rw [hk, hsplit, ← Nat.mul_assoc, Nat.mul_comm _ k, ← Nat.succ_mul]
      exact Nat.mul_le_mul_right _ (Nat.lt_of_mul_lt_mul_right hunits)
  have hcast : (m.units : ℚ) * 2 ^ 49 + unitsOfOne ≤ 10 * unitsOfOne * 2 ^ 49 := by
    have hmul := Nat.mul_le_mul_left (2 ^ 49) hgap
    rw [Nat.mul_add, ← hsplit] at hmul
    have hcast : (2 : ℚ) ^ 49 * m.units + unitsOfOne ≤ 2 ^ 49 * (10 * unitsOfOne) := by
      exact_mod_cast hmul
    linarith
  rw [value, div_le_iff₀ hone]
  linarith

/-! ## Rows of digits -/

theorem scaled_eq_shifted (m : Magnitude) (places : Nat) : m.scaled places = m.shifted places := by
  rw [shifted, if_neg (by omega), Int.natAbs_natCast]
  rfl

/-- Shifting a magnitude by a power of ten rounds its value times that power. -/
theorem shifted_spec (m : Magnitude) (power : Int) :
    ∃ n d : Nat, 0 < d ∧ (n : ℚ) / d = m.value * 10 ^ power ∧
      m.shifted power = roundHalfEven n d := by
  have hone := unitsOfOne_cast_pos.ne'
  cases power with
  | ofNat k =>
      refine ⟨m.units * 10 ^ k, unitsOfOne, unitsOfOne_pos, ?_, rfl⟩
      rw [Int.ofNat_eq_natCast, zpow_natCast, value, div_mul_eq_mul_div, Nat.cast_mul, Nat.cast_pow]
      rfl
  | negSucc k =>
      refine ⟨m.units, unitsOfOne * 10 ^ (k + 1),
        Nat.mul_pos unitsOfOne_pos (Nat.pow_pos (by decide)), ?_, ?_⟩
      · rw [zpow_negSucc, value, Nat.cast_mul, Nat.cast_pow, ← div_div]
        rfl
      · rw [shifted, if_pos (Int.negSucc_lt_zero k)]
        rfl

theorem abs_shifted_sub_le (m : Magnitude) (power : Int) :
    |(m.shifted power : ℚ) - m.value * 10 ^ power| ≤ 1 / 2 := by
  obtain ⟨n, d, hd, hquotient, hshifted⟩ := m.shifted_spec power
  rw [hshifted, ← hquotient]
  exact abs_roundHalfEven_sub_le n hd

theorem shifted_eq_of_abs_lt {m : Magnitude} {power : Int} {k : Nat}
    (h : |m.value * 10 ^ power - k| < 1 / 2) : m.shifted power = k := by
  obtain ⟨n, d, hd, hquotient, hshifted⟩ := m.shifted_spec power
  rw [← hquotient] at h
  rw [hshifted]
  exact roundHalfEven_eq_of_abs_lt hd h

/-- The value in steps of the last of `places + 1` significant digits. -/
def steps (m : Magnitude) (places : Nat) : ℚ := m.value * 10 ^ ((places : Int) - m.decade)

theorem steps_eq (m : Magnitude) (places : Nat) :
    m.steps places = m.value / 10 ^ m.decade * 10 ^ places := by
  rw [steps, zpow_sub₀ (by norm_num), zpow_natCast, mul_div_assoc', div_mul_eq_mul_div]

theorem value_div_next (m : Magnitude) :
    m.value / 10 ^ (m.decade + 1) = m.value / 10 ^ m.decade / 10 := by
  rw [zpow_add_one₀ (by norm_num), div_div]

/-- In its decade a magnitude has one integer digit. -/
theorem value_div_decade_bounds {m : Magnitude} (hm : m.isZero = false) :
    1 ≤ m.value / 10 ^ m.decade ∧ m.value / 10 ^ m.decade < 10 := by
  have hten := ten_zpow_pos m.decade
  obtain ⟨hge, hlt⟩ := decade_spec hm
  rw [zpow_add_one₀ (by norm_num)] at hlt
  constructor
  · exact (one_le_div hten).2 hge
  · rw [div_lt_iff₀ hten, mul_comm]
    exact hlt

theorem steps_bounds {m : Magnitude} (hm : m.isZero = false) (places : Nat) :
    10 ^ places ≤ m.steps places ∧ m.steps places < 10 ^ (places + 1) := by
  have hscale : (0 : ℚ) < 10 ^ places := by positivity
  obtain ⟨hone, hten⟩ := value_div_decade_bounds hm
  rw [steps_eq]
  constructor
  · exact le_mul_of_one_le_left hscale.le hone
  · rw [pow_succ, mul_comm]
    exact mul_lt_mul_of_pos_left hten hscale

theorem steps_pos {m : Magnitude} (hm : m.isZero = false) (places : Nat) : 0 < m.steps places :=
  (pow_pos (by norm_num) places).trans_le (steps_bounds hm places).1

theorem shifted_bounds {m : Magnitude} (hm : m.isZero = false) (places : Nat) :
    10 ^ places ≤ m.shifted (places - m.decade) ∧
      m.shifted (places - m.decade) ≤ 10 ^ (places + 1) := by
  obtain ⟨hlow, hhigh⟩ := steps_bounds hm places
  obtain ⟨herror, herror'⟩ := abs_le.1 (m.abs_shifted_sub_le (places - m.decade))
  unfold steps at hlow hhigh
  constructor
  · have hlt : (10 : ℚ) ^ places < m.shifted (places - m.decade) + 1 := by linarith
    exact Nat.lt_succ_iff.1 (by exact_mod_cast hlt)
  · have hlt : (m.shifted (places - m.decade) : ℚ) < 10 ^ (places + 1) + 1 := by linarith
    exact Nat.lt_succ_iff.1 (by exact_mod_cast hlt)

theorem scientific_digits_lt (m : Magnitude) (places : Nat) :
    (m.scientific places).digits < 10 ^ (places + 1) := by
  have hlt : 10 ^ places < 10 ^ (places + 1) := Nat.pow_lt_pow_right (by decide) (by omega)
  unfold scientific
  cases hm : m.isZero with
  | true => exact Nat.pow_pos (by decide)
  | false =>
      have hle := (shifted_bounds hm places).2
      dsimp only
      rw [if_neg Bool.false_ne_true]
      split
      · exact hlt
      · next hne => exact Nat.lt_of_le_of_ne hle hne

theorem scientific_digits_pos {m : Magnitude} (hm : m.isZero = false) (places : Nat) :
    0 < (m.scientific places).digits := by
  have hpos : 0 < 10 ^ places := Nat.pow_pos (by decide)
  have hle := (shifted_bounds hm places).1
  simp only [scientific, hm, Bool.false_eq_true, if_false]
  split
  · exact hpos
  · exact hpos.trans_le hle

/-! ## The fewest digits -/

section

variable {m : Magnitude} {tie : Tie} {power : Int} {n : Nat}

/-- The numbers that round to a magnitude are positive, unless it is zero. -/
theorem readsBack_zero (hm : m.isZero = false) (power : Int) : m.readsBack 0 power = false := by
  have hpos : 0 < m.units := by
    rw [isZero, beq_eq_false_iff_ne] at hm
    exact Nat.pos_of_ne_zero hm
  have hgap : spacing m.units ≤ m.units := Nat.le_of_dvd hpos m.spare_dvd
  have hbelow : ∀ P : Prop, ∀ _ : Decidable P,
      0 < 4 * m.units - (if P then spacing m.units else 2 * spacing m.units) := by
    intro P _
    split <;> omega
  have hscale : 0 < if power < 0 then 10 ^ power.natAbs else 1 := by
    split
    · exact Nat.pow_pos (by decide)
    · exact Nat.one_pos
  have hlow := Nat.mul_pos
    (hbelow (spacing m.units ≠ 1 ∧ m.units = 2 ^ m.units.log2) inferInstance) hscale
  have hpoint : ∀ k : Nat,
      (if power < 0 then 4 * 0 * unitsOfOne else 4 * 0 * unitsOfOne * k) = 0 := by
    intro k
    split <;> simp
  simp only [readsBack, hpoint, Nat.not_le.2 hlow, Nat.not_lt_zero, decide_false, Bool.false_and,
    ite_self]

theorem readsBack_of_nearestReadingBack? (h : m.nearestReadingBack? tie power = some n) :
    m.readsBack n power = true := by
  simp only [nearestReadingBack?] at h
  generalize (if power < 0 then m.units * 10 ^ power.natAbs else m.units) = numerator at h
  generalize (if power < 0 then unitsOfOne else unitsOfOne * 10 ^ power.natAbs) = denominator at h
  split at h
  · next hbelow habove =>
      split at h
      · exact Option.some.inj h ▸ hbelow
      · split at h
        · exact Option.some.inj h ▸ hbelow
        · exact Option.some.inj h ▸ habove
      · exact Option.some.inj h ▸ habove
  · next hbelow _ => exact Option.some.inj h ▸ hbelow
  · next _ habove => exact Option.some.inj h ▸ habove
  · cases h

theorem readsBack_of_fewest? {counts : List Nat} {count : Nat}
    (h : m.fewest? tie counts = some (count, n)) :
    m.readsBack n (m.decade + 1 - count) = true := by
  induction counts with
  | nil => cases h
  | cons first counts ih =>
      rw [fewest?] at h
      split at h
      · next hnearest =>
          obtain ⟨rfl, rfl⟩ := Prod.mk.inj (Option.some.inj h)
          exact readsBack_of_nearestReadingBack? hnearest
      · exact ih h

theorem shortest_digits_pos (hm : m.isZero = false) (tie : Tie) :
    0 < (m.shortest tie).digits := by
  rw [shortest, if_neg (by simp [hm])]
  split
  · next count n hfewest =>
      have hn : n ≠ 0 := by
        rintro rfl
        have hreads := readsBack_of_fewest? hfewest
        rw [readsBack_zero hm] at hreads
        cases hreads
      split
      · exact Nat.one_pos
      · exact Nat.pos_of_ne_zero hn
  · exact scientific_digits_pos hm 16

end

/-! ## The rounded logarithm -/

theorem halfGapBelow_le {k : Int} (hk : k ≠ 0) : halfGapBelow k ≤ 128 * k.natAbs := by
  have htop : 2 ^ k.natAbs.log2 ≤ k.natAbs := Nat.log2_self_le (Int.natAbs_ne_zero.2 hk)
  simp only [halfGapBelow, Nat.pow_add]
  split <;> omega

/-- The part of a power of ten that is left when half a gap of its exponent is taken off. -/
theorem le_fraction {k : Int} (hk : k ≠ 0) {one : Nat} (hone : 2 ^ 60 * 10 ^ 18 = one) :
    one * (1 - 3 * k.natAbs * roundoff) ≤ ((one - logTen * halfGapBelow k : Nat) : ℚ) := by
  have hgap := halfGapBelow_le hk
  have hloss : logTen * halfGapBelow k ≤ 3 * 10 ^ 18 * (128 * k.natAbs) := by
    unfold logTen
    omega
  have hnat : one ≤ one - logTen * halfGapBelow k + 3 * 10 ^ 18 * (128 * k.natAbs) := by omega
  have hcast : (one : ℚ) ≤
      (one - logTen * halfGapBelow k : Nat) + 3 * 10 ^ 18 * (128 * k.natAbs) := by
    exact_mod_cast hnat
  have hparts : (one : ℚ) * (3 * k.natAbs * roundoff) = 3 * 10 ^ 18 * (128 * k.natAbs) := by
    rw [← hone, roundoff]
    push_cast
    ring
  linarith

/-- The two comparisons of the rounded logarithm are one, in which the power of ten may be a
fraction. -/
theorem mul_zpow_le_value_mul {m : Magnitude} {k : Int} {fraction one : Nat}
    (h : (if k < 0 then decide (fraction * unitsOfOne ≤ m.units * 10 ^ k.natAbs * one)
      else decide (fraction * unitsOfOne * 10 ^ k.natAbs ≤ m.units * one)) = true) :
    (fraction : ℚ) * 10 ^ k ≤ m.value * one := by
  rw [value, div_mul_eq_mul_div, le_div_iff₀ unitsOfOne_cast_pos]
  cases k with
  | ofNat k =>
      rw [Int.ofNat_eq_natCast, if_neg (by omega), decide_eq_true_eq] at h
      have hcast : (fraction : ℚ) * unitsOfOne * 10 ^ k ≤ m.units * one := by
        exact_mod_cast h
      rw [Int.ofNat_eq_natCast, zpow_natCast]
      linarith
  | negSucc k =>
      rw [if_pos (Int.negSucc_lt_zero k), decide_eq_true_eq, Int.natAbs_negSucc] at h
      have hcast : (fraction : ℚ) * unitsOfOne ≤ m.units * 10 ^ (k + 1) * one := by
        exact_mod_cast h
      have hpower : (0 : ℚ) < 10 ^ (k + 1) := by positivity
      rw [zpow_negSucc, ← div_eq_mul_inv, div_mul_eq_mul_div, div_le_iff₀ hpower]
      linarith

/-- Only a value that is next to a power of ten has the exponent of that power as its rounded
logarithm. -/
theorem le_value_of_roundsUpTo {m : Magnitude} {k : Int} (h : m.roundsUpTo k = true) :
    10 ^ k * (1 - 3 * k.natAbs * roundoff) ≤ m.value := by
  obtain ⟨one, hone⟩ : ∃ one : Nat, 2 ^ 60 * 10 ^ 18 = one := ⟨_, rfl⟩
  simp only [roundsUpTo, hone, Bool.and_eq_true, decide_eq_true_eq] at h
  obtain ⟨hk, hunits⟩ := h
  have hpos : (0 : ℚ) < one := by
    rw [← hone]
    norm_num
  refine le_of_mul_le_mul_right ?_ hpos
  calc
    10 ^ k * (1 - 3 * k.natAbs * roundoff) * one =
        one * (1 - 3 * k.natAbs * roundoff) * 10 ^ k := by ring
    _ ≤ (one - logTen * halfGapBelow k : Nat) * 10 ^ k :=
      mul_le_mul_of_nonneg_right (le_fraction hk hone) (ten_zpow_pos k).le
    _ ≤ m.value * one := mul_zpow_le_value_mul hunits

end Phrasebook.Binary64.Magnitude
