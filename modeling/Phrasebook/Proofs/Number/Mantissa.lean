import Phrasebook.Proofs.Number.Finiteness

/-!
# Mantissas by division

A search for one integer place divides by the power of ten of the rounded logarithm and, if the
quotient rounds to ten, by the next one. Power and quotient are rounded, so the quotient is off by
as many parts in `2 ^ 53` as there are roundings: by none in the decade of one, by one where the
power is exact, and by 21 at most. It rounds to the digits of the exact expansion unless the number
is that near to a tie of two rows of digits.
-/

namespace Phrasebook.Number

open Binary64

attribute [local irreducible] ofUnits unitsOfOne unitLimit

/-- The relative error of a quotient by a power of ten. -/
def tolerance (e : Int) : ℚ := relativeError (quotientRoundings e)

/-- Whether the middle between two rows of `precision + 1` digits is within the tolerance. No
division is rounded in the decade of one. -/
def IsNearTie (m : Magnitude) (precision : Nat) : Prop :=
  m.decade ≠ 0 ∧
    ∃ k : Nat, |m.steps precision - (k + 1 / 2)| ≤ m.steps precision * tolerance m.decade

/-- Digits that are exact are half a step away from every tie. -/
theorem not_isNearTie_of_steps_eq {m : Magnitude} {precision n : Nat}
    (hsteps : m.steps precision = n) (herror : n * tolerance m.decade < 1 / 2) :
    ¬IsNearTie m precision := by
  rintro ⟨-, k, hk⟩
  rw [hsteps] at hk
  obtain ⟨hlow, hhigh⟩ := abs_lt.1 (hk.trans_lt herror)
  rcases Nat.lt_or_ge k n with hlt | hge
  · have hcast : (k : ℚ) + 1 ≤ n := by exact_mod_cast hlt
    linarith
  · have hcast : (n : ℚ) ≤ k := by exact_mod_cast hge
    linarith

theorem quotientRoundings_le {e : Int} (hlow : -309 ≤ e) (hhigh : e ≤ 308) :
    quotientRoundings e ≤ 21 :=
  Nat.succ_le_succ (powTenRoundings_le hlow hhigh)

theorem roundoff_le_tolerance {e : Int} (hlow : -309 ≤ e) (hhigh : e ≤ 308) :
    roundoff ≤ tolerance e := by
  have hfew : quotientRoundings e ≤ 1000 := (quotientRoundings_le hlow hhigh).trans (by decide)
  have hone : (1 : ℚ) ≤ quotientRoundings e := by exact_mod_cast Nat.succ_pos _
  exact (le_mul_of_one_le_left roundoff_pos.le hone).trans (mul_roundoff_le_relativeError hfew)

theorem tolerance_le {e : Int} (hlow : -309 ≤ e) (hhigh : e ≤ 308) :
    tolerance e ≤ 24 * roundoff := by
  have hle := quotientRoundings_le hlow hhigh
  have hcast : (quotientRoundings e : ℚ) ≤ 21 := by exact_mod_cast hle
  have herror := relativeError_le (hle.trans (by decide))
  have hmul := mul_le_mul_of_nonneg_right hcast roundoff_pos.le
  have hpos := roundoff_pos
  rw [tolerance]
  linarith

section NearTie

variable {x : Finite} {precision : Nat}

/-- Away from ties the exact digits keep their distance from both neighbouring ties. -/
theorem abs_steps_sub_lt (hzero : x.magnitude.isZero = false) (hdecade : x.magnitude.decade ≠ 0)
    (htie : ¬IsNearTie x.magnitude precision) :
    |x.magnitude.steps precision - x.magnitude.shifted (precision - x.magnitude.decade)| +
      x.magnitude.steps precision * tolerance x.magnitude.decade < 1 / 2 := by
  obtain ⟨k, hk⟩ : ∃ k, x.magnitude.shifted (precision - x.magnitude.decade) = k := ⟨_, rfl⟩
  have herror := x.magnitude.abs_shifted_sub_le (precision - x.magnitude.decade)
  have hpos : 0 < k :=
    hk ▸ (Nat.pow_pos (by decide)).trans_le (Magnitude.shifted_bounds hzero precision).1
  obtain ⟨j, rfl⟩ := Nat.exists_eq_add_one_of_ne_zero hpos.ne'
  unfold IsNearTie at htie
  push Not at htie
  have habove := htie hdecade (j + 1)
  have hbelow := htie hdecade j
  rw [hk, ← Magnitude.steps] at herror
  rw [hk]
  push_cast at habove herror ⊢
  obtain ⟨hlow, hhigh⟩ := abs_le.1 herror
  rw [abs_of_nonpos (by linarith)] at habove
  rw [abs_of_nonneg (by linarith)] at hbelow
  rcases abs_cases (x.magnitude.steps precision - ((j : ℚ) + 1)) with ⟨habs, -⟩ | ⟨habs, -⟩
  · linarith
  · linarith

/-- A quotient rounds like the exact value if its error leaves no room for a tie. -/
theorem exists_quotient {e : Int} (hlow : -308 ≤ e) (hhigh : e ≤ 308)
    (hsmall : 1 / 100 ≤ x.magnitude.value / 10 ^ e) (hgreat : x.magnitude.value / 10 ^ e ≤ 1000)
    {k : Nat} (hk : |x.magnitude.value / 10 ^ e * 10 ^ precision - k| +
      x.magnitude.value / 10 ^ e * 10 ^ precision * tolerance e < 1 / 2) :
    ∃ m : Magnitude, (Binary64.finite x).div (powTen e) = .finite ⟨x.negative, m⟩ ∧
      m.scaled precision = k := by
  obtain ⟨m, hdiv, hwithin⟩ := within_div_powTen x hlow hhigh hsmall hgreat
  refine ⟨m, hdiv, ?_⟩
  have hscale : (0 : ℚ) < 10 ^ precision := by positivity
  have hfew : quotientRoundings e ≤ 1000 :=
    (quotientRoundings_le (by omega) hhigh).trans (by decide)
  have herror := hwithin.abs_sub_le hfew (by linarith) m.value_nonneg
  have herror' : |m.value * 10 ^ precision - x.magnitude.value / 10 ^ e * 10 ^ precision| ≤
      x.magnitude.value / 10 ^ e * 10 ^ precision * tolerance e := by
    rw [← sub_mul, abs_mul, abs_of_pos hscale, mul_right_comm]
    exact mul_le_mul_of_nonneg_right herror hscale.le
  have htriangle := abs_sub_le (m.value * 10 ^ precision)
    (x.magnitude.value / 10 ^ e * 10 ^ precision) k
  rw [Magnitude.scaled_eq_shifted]
  apply Magnitude.shifted_eq_of_abs_lt
  rw [zpow_natCast]
  linarith

/-- In the decade of the number the quotient has the exact digits. -/
theorem exists_quotient_decade (hzero : x.magnitude.isZero = false)
    (hlow : -308 ≤ x.magnitude.decade) (htie : ¬IsNearTie x.magnitude precision) :
    ∃ m : Magnitude,
      (Binary64.finite x).div (powTen x.magnitude.decade) = .finite ⟨x.negative, m⟩ ∧
        m.scaled precision = x.magnitude.shifted (precision - x.magnitude.decade) := by
  by_cases hdecade : x.magnitude.decade = 0
  · refine ⟨x.magnitude, ?_, ?_⟩
    · rw [hdecade, powTen_zero, div_ofInt_one]
    · rw [hdecade, sub_zero, Magnitude.scaled_eq_shifted]
  · obtain ⟨hone, hnext⟩ := Magnitude.value_div_decade_bounds hzero
    refine exists_quotient hlow (x.magnitude.decade_le hzero) (by linarith) (by linarith) ?_
    rw [← Magnitude.steps_eq]
    exact abs_steps_sub_lt hzero hdecade htie

/-! ## Digits that round up to a power of ten -/

theorem le_steps_of_carry
    (hcarry : x.magnitude.shifted (precision - x.magnitude.decade) = 10 ^ (precision + 1)) :
    10 ^ (precision + 1) - 1 / 2 ≤ x.magnitude.steps precision := by
  have herror := x.magnitude.abs_shifted_sub_le (precision - x.magnitude.decade)
  rw [hcarry, ← Magnitude.steps] at herror
  push_cast at herror
  linarith [(abs_le.1 herror).2]

/-- The next power of ten is finite. -/
theorem decade_lt_of_carry (hzero : x.magnitude.isZero = false)
    (hcarry : x.magnitude.shifted (precision - x.magnitude.decade) = 10 ^ (precision + 1)) :
    x.magnitude.decade < 308 := by
  refine lt_of_le_of_ne (x.magnitude.decade_le hzero) fun hdecade => ?_
  have hpower : (1 : ℚ) ≤ 10 ^ precision := one_le_pow₀ (by norm_num)
  have hclose := le_steps_of_carry hcarry
  have hlimit : x.magnitude.value / 10 ^ x.magnitude.decade ≤ 9 := by
    have hten : (0 : ℚ) < 10 ^ 308 := by positivity
    have hvalue : x.magnitude.value < 10 ^ 309 * (9 / 10) :=
      x.magnitude.value_lt.trans_le finiteLimit_le_ten_pow
    have hpow : (10 : ℚ) ^ x.magnitude.decade = 10 ^ 308 := by
      rw [hdecade]
      exact zpow_natCast 10 308
    rw [hpow, div_le_iff₀ hten]
    calc
      x.magnitude.value ≤ 10 ^ 309 * (9 / 10) := hvalue.le
      _ = 9 * 10 ^ 308 := by
        rw [pow_succ]
        ring
  have hsteps := mul_le_mul_of_nonneg_right hlimit (zero_le_one.trans hpower)
  rw [← Magnitude.steps_eq] at hsteps
  rw [pow_succ] at hclose
  linarith

/-- Numbers of many digits do not get that near to a power of ten, or are near to a tie. -/
theorem precision_lt_of_carry (hzero : x.magnitude.isZero = false)
    (hlow : -309 ≤ x.magnitude.decade) (htie : ¬IsNearTie x.magnitude precision)
    (hcarry : x.magnitude.shifted (precision - x.magnitude.decade) = 10 ^ (precision + 1)) :
    precision < 15 := by
  by_contra hmany
  have hclose := le_steps_of_carry hcarry
  have hpower : (10 : ℚ) ^ 15 ≤ 10 ^ precision :=
    pow_le_pow_right₀ (by norm_num) (Nat.not_lt.1 hmany)
  rw [pow_succ] at hclose
  by_cases hdecade : x.magnitude.decade = 0
  · have hten := (Magnitude.value_div_decade_bounds hzero).2
    have hsteps := x.magnitude.steps_eq precision
    rw [hdecade, zpow_zero, div_one] at hten hsteps
    have hgap := mul_le_mul_of_nonneg_right (Magnitude.value_le_of_lt_ten hten)
      (zero_le_one.trans (one_le_pow₀ (by norm_num : (1 : ℚ) ≤ 10) (n := precision)))
    rw [← hsteps] at hgap
    norm_num at hpower
    linarith
  · have hdistance := abs_steps_sub_lt hzero hdecade htie
    have hroom := mul_le_mul_of_nonneg_left
      (roundoff_le_tolerance hlow (x.magnitude.decade_le hzero))
      (Magnitude.steps_pos hzero precision).le
    have hnonneg := abs_nonneg
      (x.magnitude.steps precision - x.magnitude.shifted (precision - x.magnitude.decade))
    have hgreat := mul_le_mul_of_nonneg_right hclose roundoff_pos.le
    norm_num [roundoff] at hpower hroom hgreat
    linarith

/-- The quotient in the next decade rounds up as well. -/
theorem exists_quotient_next (hzero : x.magnitude.isZero = false)
    (hlow : -309 ≤ x.magnitude.decade) (htie : ¬IsNearTie x.magnitude precision)
    (hcarry : x.magnitude.shifted (precision - x.magnitude.decade) = 10 ^ (precision + 1)) :
    ∃ m : Magnitude,
      (Binary64.finite x).div (powTen (x.magnitude.decade + 1)) = .finite ⟨x.negative, m⟩ ∧
        m.scaled precision = 10 ^ precision := by
  obtain ⟨hone, hnext⟩ := Magnitude.value_div_decade_bounds hzero
  have hclose := le_steps_of_carry hcarry
  have hupper := (Magnitude.steps_bounds hzero precision).2
  have hdecade := decade_lt_of_carry hzero hcarry
  have hfew := Nat.lt_succ_iff.1 (precision_lt_of_carry hzero hlow htie hcarry)
  have hquotient : x.magnitude.value / 10 ^ (x.magnitude.decade + 1) * 10 ^ precision =
      x.magnitude.steps precision / 10 := by
    rw [Magnitude.value_div_next, Magnitude.steps_eq]
    ring
  have hsmall : x.magnitude.steps precision / 10 * tolerance (x.magnitude.decade + 1) < 9 / 20 := by
    have hpower : (10 : ℚ) ^ precision ≤ 10 ^ 14 := pow_le_pow_right₀ (by norm_num) hfew
    have htolerance := tolerance_le (by omega : -309 ≤ x.magnitude.decade + 1) (by omega)
    rw [pow_succ] at hupper
    calc
      x.magnitude.steps precision / 10 * tolerance (x.magnitude.decade + 1) ≤
          10 ^ 14 * (24 * roundoff) := by
        refine mul_le_mul (by linarith) htolerance ?_ (by norm_num)
        exact roundoff_pos.le.trans (roundoff_le_tolerance (by omega) (by omega))
      _ < 9 / 20 := by norm_num [roundoff]
  refine exists_quotient (by omega) (by omega) ?_ ?_ ?_
  · rw [Magnitude.value_div_next]
    linarith
  · rw [Magnitude.value_div_next]
    linarith
  · rw [hquotient]
    push_cast
    rw [pow_succ] at hupper hclose
    rw [abs_of_neg (by linarith)]
    linarith

end NearTie

/-! ## The rounded logarithm -/

section Logarithm

variable {m : Magnitude} {precision : Nat}

theorem scientific_of_carry (hzero : m.isZero = false)
    (hcarry : m.shifted (precision - m.decade) = 10 ^ (precision + 1)) :
    m.scientific precision = ⟨10 ^ precision, m.decade + 1⟩ := by
  simp only [Magnitude.scientific, hzero, Bool.false_eq_true, if_false, hcarry, if_true]

theorem scientific_of_not_carry (hzero : m.isZero = false)
    (hcarry : m.shifted (precision - m.decade) ≠ 10 ^ (precision + 1)) :
    m.scientific precision = ⟨m.shifted (precision - m.decade), m.decade⟩ := by
  simp only [Magnitude.scientific, hzero, Bool.false_eq_true, if_false, hcarry]

theorem decade_le_exponent (hzero : m.isZero = false) :
    m.decade ≤ (m.scientific precision).exponent := by
  by_cases hcarry : m.shifted (precision - m.decade) = 10 ^ (precision + 1)
  · rw [scientific_of_carry hzero hcarry]
    exact Int.le_add_one le_rfl
  · rw [scientific_of_not_carry hzero hcarry]

theorem logFloor_le (m : Magnitude) : m.logFloor ≤ m.decade + 1 := by
  unfold Magnitude.logFloor
  split <;> omega

/-- How far below the next power of ten a value can be whose rounded logarithm is the exponent of
that power. -/
def logarithmLoss (decade : Int) : ℚ := 3 * (decade + 1).natAbs * roundoff

theorem le_steps_of_roundsUpTo (h : m.roundsUpTo (m.decade + 1) = true) :
    10 ^ (precision + 1) * (1 - logarithmLoss m.decade) ≤ m.steps precision := by
  have hten := Magnitude.ten_zpow_pos m.decade
  have hscale : (0 : ℚ) ≤ 10 ^ precision := by positivity
  have hvalue := Magnitude.le_value_of_roundsUpTo h
  rw [← logarithmLoss, zpow_add_one₀ (by norm_num)] at hvalue
  rw [Magnitude.steps_eq]
  calc
    (10 : ℚ) ^ (precision + 1) * (1 - logarithmLoss m.decade) =
        10 * (1 - logarithmLoss m.decade) * 10 ^ precision := by ring
    _ ≤ m.value / 10 ^ m.decade * 10 ^ precision := by
      apply mul_le_mul_of_nonneg_right _ hscale
      rw [le_div_iff₀ hten]
      linarith

/-- The rounded logarithm exceeds the exponent of the exact expansion only for values that are next
to a power of ten and do not round up to it. -/
theorem steps_bounds_of_exponent_lt (hzero : m.isZero = false)
    (h : (m.scientific precision).exponent < m.logFloor) :
    10 ^ (precision + 1) * (1 - logarithmLoss m.decade) ≤ m.steps precision ∧
      m.steps precision ≤ 10 ^ (precision + 1) - 1 / 2 := by
  have hcarry : m.shifted (precision - m.decade) ≠ 10 ^ (precision + 1) := by
    intro hcarry
    rw [scientific_of_carry hzero hcarry] at h
    exact absurd (logFloor_le m) (not_le.2 h)
  rw [scientific_of_not_carry hzero hcarry] at h
  constructor
  · apply le_steps_of_roundsUpTo
    by_contra hround
    rw [Magnitude.logFloor, if_neg hround] at h
    exact lt_irrefl _ h
  · have hlt : m.shifted (precision - m.decade) + 1 ≤ 10 ^ (precision + 1) :=
      Nat.lt_of_le_of_ne (Magnitude.shifted_bounds hzero precision).2 hcarry
    have hcast : (m.shifted (precision - m.decade) : ℚ) + 1 ≤ 10 ^ (precision + 1) := by
      exact_mod_cast hlt
    have herror := (abs_le.1 (m.abs_shifted_sub_le (precision - m.decade))).1
    rw [← Magnitude.steps] at herror
    linarith

end Logarithm

/-! ## The search for one integer place -/

theorem length_whole_fixed_le_one_iff {q : Finite} {decimals : Nat} :
    ((float (.finite q)).fixed decimals).whole.length ≤ 1 ↔
      q.magnitude.scaled decimals < 10 ^ (decimals + 1) := by
  rw [Nat.pow_succ, Nat.mul_comm, ← Nat.div_lt_iff_lt_mul (Nat.pow_pos (by decide))]
  exact length_digits_le_iff Nat.one_pos

theorem firstExponent?_one (x : Finite) :
    firstExponent? (.finite x) 1 = some x.magnitude.logFloor := by
  rw [firstExponent?_eq_some _ Nat.one_pos (by decide), logFloor, Nat.cast_one, sub_self, sub_zero]

/-- The decade fits unless its digits round up to a power of ten. -/
theorem fits_decade_iff {x : Finite} (hzero : x.magnitude.isZero = false) {precision : Nat}
    {q : Finite} (hquotient : (Binary64.finite x).div (powTen x.magnitude.decade) = .finite q)
    (hscaled : q.magnitude.scaled precision =
      x.magnitude.shifted (precision - x.magnitude.decade)) :
    Fits (.finite x) 1 precision x.magnitude.decade ↔
      x.magnitude.shifted (precision - x.magnitude.decade) ≠ 10 ^ (precision + 1) := by
  have hle := (Magnitude.shifted_bounds hzero precision).2
  rw [Fits, hquotient, length_whole_fixed_le_one_iff, hscaled]
  exact ⟨fun hlt => hlt.ne, fun hne => lt_of_le_of_ne hle hne⟩

/-- Whether the search begins at the decade or behind it, it ends behind it where only that fits. -/
theorem fittingExponent?_logFloor_of_next {x : Finite} {precision : Nat}
    (hmax : x.magnitude.decade < maxExponent)
    (hdecade : ¬Fits (.finite x) 1 precision x.magnitude.decade)
    (hnext : Fits (.finite x) 1 precision (x.magnitude.decade + 1)) :
    fittingExponent? (.finite x) 1 precision x.magnitude.logFloor =
      some (x.magnitude.decade + 1) := by
  have hend : fittingExponent? (.finite x) 1 precision (x.magnitude.decade + 1) =
      some (x.magnitude.decade + 1) := by
    rw [fittingExponent?, if_pos hnext]
  rw [Magnitude.logFloor]
  split
  · exact hend
  · rw [fittingExponent?, if_neg hdecade, if_pos hmax, hend]

/-- By a power of ten that is zero nothing is divided. -/
theorem not_fits_of_lt {x : Finite} (hzero : x.magnitude.isZero = false) {e : Int} (he : e < -308)
    (decimals : Nat) : ¬Fits (.finite x) 1 decimals e := by
  rw [Fits, div_powTen_eq_infinite hzero he]
  exact (by decide : ¬3 ≤ 1)

section Search

variable {n : Number} {x : Finite} {precision : Nat}

theorem mantissa?_of_carry (hx : n.toBinary64 = .finite x) (hzero : x.magnitude.isZero = false)
    (hlow : -309 ≤ x.magnitude.decade) (htie : ¬IsNearTie x.magnitude precision)
    (hcarry : x.magnitude.shifted (precision - x.magnitude.decade) = 10 ^ (precision + 1)) :
    ∃ q : Finite, mantissa? n 1 precision = some (.finite q, x.magnitude.decade + 1) ∧
      q.magnitude.scaled precision = 10 ^ precision := by
  have hzero' : n.toBinary64.isZero = false := hx ▸ hzero
  obtain ⟨next, hnext, hpower⟩ := exists_quotient_next hzero hlow htie hcarry
  have hfits : ¬Fits (.finite x) 1 precision x.magnitude.decade := by
    rcases lt_or_ge x.magnitude.decade (-308) with hlt | hge
    · exact not_fits_of_lt hzero hlt precision
    · obtain ⟨m, hquotient, hscaled⟩ := exists_quotient_decade hzero hge htie
      exact fun h => (fits_decade_iff hzero hquotient hscaled).1 h hcarry
  have hfits' : Fits (.finite x) 1 precision (x.magnitude.decade + 1) := by
    rw [Fits, hnext, length_whole_fixed_le_one_iff]
    show next.scaled precision < _
    rw [hpower]
    exact Nat.pow_lt_pow_right (by decide) (Nat.lt_succ_self _)
  have hmax : x.magnitude.decade < maxExponent := by
    have hdecade := decade_bounds x.magnitude
    unfold maxExponent
    omega
  refine ⟨⟨x.negative, next⟩, (mantissa?_eq_some_iff hzero').2 ⟨x.magnitude.logFloor, ?_, ?_, ?_⟩,
    hpower⟩
  · rw [hx, firstExponent?_one]
  · rw [hx, fittingExponent?_logFloor_of_next hmax hfits hfits']
  · rw [hx, hnext]

theorem mantissa?_of_not_carry (hx : n.toBinary64 = .finite x)
    (hzero : x.magnitude.isZero = false) (hlow : -308 ≤ x.magnitude.decade)
    (htie : ¬IsNearTie x.magnitude precision)
    (hcarry : x.magnitude.shifted (precision - x.magnitude.decade) ≠ 10 ^ (precision + 1))
    (hlog : x.magnitude.logFloor ≤ x.magnitude.decade) :
    ∃ q : Finite, mantissa? n 1 precision = some (.finite q, x.magnitude.decade) ∧
      q.magnitude.scaled precision = x.magnitude.shifted (precision - x.magnitude.decade) := by
  have hzero' : n.toBinary64.isZero = false := hx ▸ hzero
  have hstart : x.magnitude.logFloor = x.magnitude.decade := by
    unfold Magnitude.logFloor at hlog ⊢
    split at hlog <;> simp_all
  obtain ⟨m, hquotient, hscaled⟩ := exists_quotient_decade hzero hlow htie
  have hfits := (fits_decade_iff hzero hquotient hscaled).2 hcarry
  refine ⟨⟨x.negative, m⟩, (mantissa?_eq_some_iff hzero').2 ⟨x.magnitude.decade, ?_, ?_, ?_⟩,
    hscaled⟩
  · rw [hx, firstExponent?_one, hstart]
  · rw [hx, fittingExponent?, if_pos hfits]
  · rw [hx, hquotient]

/-- Away from ties the search ends at the exponent of the exact expansion, with its digits, unless
it begins behind that exponent. -/
theorem mantissa?_eq_scientific_iff (hx : n.toBinary64 = .finite x)
    (hzero : x.magnitude.isZero = false)
    (hlow : -308 ≤ (x.magnitude.scientific precision).exponent)
    (htie : ¬IsNearTie x.magnitude precision) :
    (∃ q : Finite,
      mantissa? n 1 precision = some (.finite q, (x.magnitude.scientific precision).exponent) ∧
        q.magnitude.scaled precision = (x.magnitude.scientific precision).digits) ↔
      x.magnitude.logFloor ≤ (x.magnitude.scientific precision).exponent := by
  have hzero' : n.toBinary64.isZero = false := hx ▸ hzero
  constructor
  · rintro ⟨q, hmantissa, -⟩
    obtain ⟨start, hstart, hexponent, -⟩ := (mantissa?_eq_some_iff hzero').1 hmantissa
    rw [hx, firstExponent?_one] at hstart
    obtain rfl := Option.some.inj hstart
    exact ((fittingExponent?_spec _ _ _ _).1 _ hexponent).2.1
  · intro hlog
    by_cases hcarry : x.magnitude.shifted (precision - x.magnitude.decade) = 10 ^ (precision + 1)
    · rw [scientific_of_carry hzero hcarry] at hlow ⊢
      exact mantissa?_of_carry hx hzero (by linarith) htie hcarry
    · rw [scientific_of_not_carry hzero hcarry] at hlow hlog ⊢
      exact mantissa?_of_not_carry hx hzero hlow htie hcarry hlog

end Search

end Phrasebook.Number
