import Phrasebook.Proofs.Binary64.Decade

/-!
# Integers as floating point numbers

The number nearest to an integer is an integer again: rounding does not depend on the unit, as long
as it is a power of two. It is the same integer if the bits beyond a significand are zero, so for
every integer of at most 53 bits.
-/

namespace Phrasebook.Binary64

attribute [local irreducible] ofUnits unitsOfOne unitLimit

/-! ## Rounding in other units -/

theorem log2_mul_two_pow {n : Nat} (hn : n ≠ 0) (k : Nat) : (n * 2 ^ k).log2 = n.log2 + k := by
  have hne : n * 2 ^ k ≠ 0 := Nat.mul_ne_zero hn (Nat.two_pow_pos k).ne'
  rw [Nat.log2_eq_iff hne, Nat.pow_add, Nat.add_right_comm, Nat.pow_add]
  exact ⟨Nat.mul_le_mul_right _ (Nat.log2_self_le hn),
    Nat.mul_lt_mul_of_pos_right Nat.lt_log2_self (Nat.two_pow_pos k)⟩

/-- Below 53 bits nothing is rounded, and from there on every further bit is a spare one. -/
theorem roundUnits_mul_two_pow (n k : Nat) : roundUnits (n * 2 ^ k) 1 = roundUnits n 1 * 2 ^ k := by
  rcases Nat.lt_or_ge n (2 ^ 53) with hlt | hge
  · have hself : roundUnits n 1 = n := by
      have hdvd := spare_dvd_of_le hlt.le 0
      rw [Nat.pow_zero, Nat.mul_one] at hdvd
      exact roundUnits_one_of_dvd hdvd
    rw [roundUnits_one_of_dvd (spare_dvd_of_le hlt.le k), hself]
  · have hne : n ≠ 0 := by omega
    have hlog : 53 ≤ n.log2 := (Nat.le_log2 hne).2 hge
    have hspacing : spacing (n * 2 ^ k) = spacing n * 2 ^ k := by
      rw [spacing, spacing, ← Nat.pow_add, spareBits, spareBits, log2_mul_two_pow hne]
      congr 1
      omega
    rw [roundUnits, roundUnits, Nat.div_one, Nat.div_one, Nat.one_mul, Nat.one_mul, hspacing,
      roundHalfEven_mul_right n _ (spacing_pos n) (Nat.two_pow_pos k), Nat.mul_assoc]

theorem roundUnits_mul_unitsOfOne (n : Nat) :
    roundUnits (n * unitsOfOne) 1 = roundUnits n 1 * unitsOfOne := by
  unfold unitsOfOne
  exact roundUnits_mul_two_pow n 1074

theorem roundUnits_one_pos {n : Nat} (hn : 0 < n) : 0 < roundUnits n 1 := by
  have hone : 2 ^ 0 ≤ n / 1 := by rwa [Nat.div_one]
  exact Nat.lt_of_lt_of_le (Nat.two_pow_pos 0) (two_pow_le_roundUnits hone)

/-! ## The nearest floating point number -/

theorem ofInt_eq {i : Int} (hi : i.natAbs ≤ 2 ^ 127) :
    ∃ m : Magnitude, m.units = roundUnits i.natAbs 1 * unitsOfOne ∧
      ofInt i = .finite ⟨decide (i < 0), m⟩ := by
  obtain ⟨m, hunits, hfinite⟩ :=
    ofUnits_of_lt (decide (i < 0)) (roundUnits_natAbs_lt_unitLimit hi)
  exact ⟨m, hunits.trans (roundUnits_mul_unitsOfOne _), hfinite⟩

theorem toInt?_of_units {negative : Bool} {m : Magnitude} {n : Nat}
    (hm : m.units = n * unitsOfOne) :
    (finite ⟨negative, m⟩).toInt? = some (if negative then -(n : Int) else n) := by
  have hone : (unitsOfOne : Int) ≠ 0 := by exact_mod_cast unitsOfOne_pos.ne'
  have hmod : n * unitsOfOne % unitsOfOne = 0 := Nat.mul_mod_left _ _
  simp only [toInt?, Finite.signedUnits, hm, hmod, if_true]
  congr 1
  cases negative with
  | true =>
      rw [if_pos rfl, if_pos rfl, Nat.cast_mul, ← Int.neg_mul, Int.mul_ediv_cancel _ hone]
  | false =>
      rw [if_neg Bool.false_ne_true, if_neg Bool.false_ne_true, Nat.cast_mul,
        Int.mul_ediv_cancel _ hone]

/-- Whether the floating point number nearest to an integer is the integer. -/
def IsExact (i : Int) : Prop := (ofInt i).toInt? = some i

instance (i : Int) : Decidable (IsExact i) := by
  unfold IsExact
  infer_instance

theorem isExact_iff_roundUnits {i : Int} (hi : i.natAbs ≤ 2 ^ 127) :
    IsExact i ↔ roundUnits i.natAbs 1 = i.natAbs := by
  obtain ⟨m, hunits, hfinite⟩ := ofInt_eq hi
  rw [IsExact, hfinite, toInt?_of_units hunits, Option.some_inj]
  by_cases hneg : i < 0
  · simp only [hneg, decide_true, if_true]
    omega
  · simp only [hneg, decide_false, Bool.false_eq_true, if_false]
    omega

theorem isExact_iff_dvd {i : Int} (hi : i.natAbs ≤ 2 ^ 127) :
    IsExact i ↔ 2 ^ spareBits i.natAbs ∣ i.natAbs := by
  rw [isExact_iff_roundUnits hi]
  constructor
  · intro h
    have hdvd := spare_dvd_roundUnits i.natAbs 1
    rwa [h] at hdvd
  · exact roundUnits_one_of_dvd

theorem isExact_of_le {i : Int} (hi : i.natAbs ≤ 2 ^ 53) : IsExact i := by
  have hdvd := spare_dvd_of_le hi 0
  rw [Nat.pow_zero, Nat.mul_one] at hdvd
  exact (isExact_iff_dvd (hi.trans (Nat.pow_le_pow_right (by decide) (by decide)))).2 hdvd

/-! ## Digits of whole magnitudes -/

namespace Magnitude

variable {m : Magnitude} {n : Nat}

theorem isZero_of_units (hm : m.units = n * unitsOfOne) : m.isZero = decide (n = 0) := by
  rw [isZero, hm, Bool.eq_iff_iff, beq_iff_eq, decide_eq_true_iff, Nat.mul_eq_zero]
  exact or_iff_left unitsOfOne_pos.ne'

theorem isZero_of_units_of_pos (hm : m.units = n * unitsOfOne) (hn : 0 < n) : m.isZero = false := by
  rw [isZero_of_units hm]
  simpa using hn.ne'

theorem ten_pow_le_of_digits (hn : 0 < n) : 10 ^ ((digits n).length - 1) ≤ n := by
  by_contra hlt
  rw [Nat.not_le] at hlt
  rcases Nat.eq_zero_or_pos ((digits n).length - 1) with hone | hmore
  · rw [hone] at hlt
    omega
  · have hle := (length_digits_le_iff hmore).2 hlt
    omega

/-- The decade of a whole number is one less than its count of digits. -/
theorem decade_of_units (hm : m.units = n * unitsOfOne) (hn : 0 < n) :
    m.decade = ((digits n).length : Int) - 1 := by
  have hzero := isZero_of_units_of_pos hm hn
  have hpos := List.length_pos_iff.2 (digits_ne_nil n)
  obtain ⟨count, hcount⟩ := Nat.exists_eq_add_one_of_ne_zero hpos.ne'
  obtain ⟨hge, hlt⟩ := decade_spec hzero
  rw [value_of_units hm] at hge hlt
  have hten : (1 : ℚ) < 10 := by norm_num
  have hlow : (10 : ℚ) ^ (count : Int) ≤ n := by
    have hle := ten_pow_le_of_digits hn
    rw [hcount, Nat.add_sub_cancel] at hle
    rw [zpow_natCast]
    exact_mod_cast hle
  have hhigh : (n : ℚ) < 10 ^ ((count : Int) + 1) := by
    have hlt' : n < 10 ^ (count + 1) := (length_digits_le_iff (Nat.succ_pos _)).1 hcount.le
    rw [← Nat.cast_add_one, zpow_natCast]
    exact_mod_cast hlt'
  have hbelow := (zpow_lt_zpow_iff_right₀ hten).1 (hge.trans_lt hhigh)
  have habove := (zpow_lt_zpow_iff_right₀ hten).1 (hlow.trans_lt hlt)
  omega

theorem shifted_of_units (hm : m.units = n * unitsOfOne) (power : Nat) :
    m.shifted power = n * 10 ^ power := by
  rw [shifted, if_neg (by omega), Int.natAbs_natCast, hm, Nat.mul_right_comm]
  exact roundHalfEven_mul_self _ unitsOfOne_pos

/-- With enough places all digits of a whole number are shown, and zeros behind them. -/
theorem scientific_of_units (hm : m.units = n * unitsOfOne) (hn : 0 < n) {places : Nat}
    (hplaces : (digits n).length ≤ places + 1) :
    m.scientific places =
      ⟨n * 10 ^ (places + 1 - (digits n).length), ((digits n).length : Int) - 1⟩ := by
  have hzero := isZero_of_units_of_pos hm hn
  have hpos := List.length_pos_iff.2 (digits_ne_nil n)
  have hpower : (places : Int) - m.decade = (places + 1 - (digits n).length : Nat) := by
    rw [decade_of_units hm hn]
    omega
  have hlt : n * 10 ^ (places + 1 - (digits n).length) < 10 ^ (places + 1) := by
    have hn' := (length_digits_le_iff hpos).1 le_rfl
    calc
      _ < 10 ^ (digits n).length * 10 ^ (places + 1 - (digits n).length) :=
        Nat.mul_lt_mul_of_pos_right hn' (Nat.pow_pos (by decide))
      _ = 10 ^ (places + 1) := by rw [← Nat.pow_add, Nat.add_sub_cancel' hplaces]
  have hshifted : m.shifted (places - m.decade) = n * 10 ^ (places + 1 - (digits n).length) := by
    rw [hpower, shifted_of_units hm]
  simp only [scientific, hzero, Bool.false_eq_true, if_false, hshifted, hlt.ne]
  rw [decade_of_units hm hn]

/-- The digits that are shown denote a number in the decade of the magnitude or the next one. -/
theorem le_scientific {places : Nat} (hzero : m.isZero = false) :
    10 ^ places ≤ (m.scientific places).digits ∧ m.decade ≤ (m.scientific places).exponent := by
  have hle := (shifted_bounds hzero places).1
  simp only [scientific, hzero, Bool.false_eq_true, if_false]
  split
  · exact ⟨le_rfl, by simp⟩
  · exact ⟨hle, le_rfl⟩

end Magnitude

end Phrasebook.Binary64
