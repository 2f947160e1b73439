import Mathlib.Tactic.Ring
import Phrasebook.Binary64.Arithmetic
import Phrasebook.Binary64.Digits
import Phrasebook.Proofs.Decimal.Digits

/-!
# Rounded arithmetic

Numbers that fit a significand are not rounded, and powers of two are magnitudes, so no rounding
goes below one. A rounded product is therefore at least the product of the greatest powers of two
below its factors, and the powers of ten leave the finite numbers. The units of one and the limit of
the units stay folded, here and wherever these laws are used, as unification would compute them.
-/

namespace Phrasebook.Binary64

/-! ## Rounding -/

theorem unitsOfOne_pos : 0 < unitsOfOne := by
  unfold unitsOfOne
  apply Nat.two_pow_pos

theorem unitsOfOne_mul_two_pow (j : Nat) : unitsOfOne * 2 ^ j = 2 ^ (1074 + j) := by
  unfold unitsOfOne
  exact (Nat.pow_add 2 1074 j).symm

theorem unitLimit_eq : unitLimit = unitsOfOne * 2 ^ 1024 := by
  unfold unitLimit
  exact (unitsOfOne_mul_two_pow 1024).symm

theorem spare_dvd_mul_unitsOfOne {k : Nat} (hk : k ≤ 2 ^ 53) :
    2 ^ spareBits (k * unitsOfOne) ∣ k * unitsOfOne := by
  unfold unitsOfOne
  exact spare_dvd_of_le hk 1074

attribute [local irreducible] unitsOfOne unitLimit

theorem spacing_pos (units : Nat) : 0 < spacing units := Nat.two_pow_pos _

/-- What fits a significand is not rounded. -/
theorem roundUnits_one_of_dvd {n : Nat} (h : 2 ^ spareBits n ∣ n) : roundUnits n 1 = n := by
  obtain ⟨k, hk⟩ := h
  have hdiv : n / spacing n = k := by
    rw [spacing]
    exact Nat.div_eq_of_eq_mul_right (Nat.two_pow_pos _) hk
  have hmod : n % spacing n = 0 := Nat.mod_eq_zero_of_dvd ⟨k, hk⟩
  have hround : roundHalfEven n (spacing n) = k := by
    have hpos := spacing_pos n
    rw [roundHalfEven, if_neg (by omega), hdiv]
  rw [roundUnits, Nat.div_one, Nat.one_mul, hround, Nat.mul_comm]
  exact hk.symm

theorem ofUnits_of_lt (negative : Bool) {n d : Nat} (h : roundUnits n d < unitLimit) :
    ∃ m : Magnitude, m.units = roundUnits n d ∧ ofUnits negative n d = .finite ⟨negative, m⟩ := by
  have hround : Magnitude.round? n d = some ⟨_, h, spare_dvd_roundUnits n d⟩ := dif_pos h
  refine ⟨⟨_, h, spare_dvd_roundUnits n d⟩, rfl, ?_⟩
  unfold ofUnits
  rw [hround]

theorem ofUnits_of_le (negative : Bool) {n d : Nat} (h : unitLimit ≤ roundUnits n d) :
    ofUnits negative n d = .infinite negative := by
  have hround : Magnitude.round? n d = none := dif_neg (Nat.not_lt.2 h)
  unfold ofUnits
  rw [hround]

theorem ofUnits_units (negative : Bool) (m : Magnitude) :
    ofUnits negative m.units 1 = .finite ⟨negative, m⟩ := by
  have hround := roundUnits_one_of_dvd m.spare_dvd
  unfold ofUnits Magnitude.round?
  simp only [hround, m.units_lt, dite_true]

theorem ofInt_natCast {k : Nat} (hk : k ≤ 2 ^ 53) :
    ∃ m : Magnitude, m.units = k * unitsOfOne ∧ ofInt k = .finite ⟨false, m⟩ := by
  have hlt : k * unitsOfOne < unitLimit := by
    have hpow : 2 ^ 53 < 2 ^ 1024 := Nat.pow_lt_pow_right (by decide) (by decide)
    rw [unitLimit_eq, Nat.mul_comm unitsOfOne]
    exact Nat.mul_lt_mul_of_pos_right (Nat.lt_of_le_of_lt hk hpow) unitsOfOne_pos
  have hsign : decide ((k : Int) < 0) = false := by simp
  refine ⟨⟨k * unitsOfOne, hlt, spare_dvd_mul_unitsOfOne hk⟩, rfl, ?_⟩
  rw [ofInt, hsign]
  exact ofUnits_units false ⟨k * unitsOfOne, hlt, spare_dvd_mul_unitsOfOne hk⟩

theorem ofInt_eq_finite {k : Nat} (hpos : 0 < k) (hk : k ≤ 2 ^ 53) :
    ∃ x : Finite, ofInt k = .finite x ∧ x.magnitude.isZero = false := by
  obtain ⟨m, hunits, hfinite⟩ := ofInt_natCast hk
  refine ⟨_, hfinite, ?_⟩
  rw [Magnitude.isZero, beq_eq_false_iff_ne, hunits]
  exact Nat.ne_of_gt (Nat.mul_pos hpos unitsOfOne_pos)

/-- Rounding does not go below a power of two. -/
theorem two_pow_le_roundUnits {n d j : Nat} (h : 2 ^ j ≤ n / d) : 2 ^ j ≤ roundUnits n d := by
  have hne : n / d ≠ 0 := by
    have hpos := Nat.two_pow_pos j
    omega
  have hj : j ≤ (n / d).log2 := (Nat.le_log2 hne).2 h
  have hspare : spareBits (n / d) ≤ (n / d).log2 := Nat.sub_le _ _
  have hquotient : 2 ^ ((n / d).log2 - spareBits (n / d)) ≤ n / (d * spacing (n / d)) := by
    rw [← Nat.div_div_eq_div_mul, spacing, Nat.le_div_iff_mul_le (Nat.two_pow_pos _),
      ← Nat.pow_add, Nat.sub_add_cancel hspare]
    exact Nat.log2_self_le hne
  calc
    2 ^ j ≤ 2 ^ (n / d).log2 := Nat.pow_le_pow_right (by decide) hj
    _ = 2 ^ ((n / d).log2 - spareBits (n / d)) * spacing (n / d) := by
      rw [spacing, ← Nat.pow_add, Nat.sub_add_cancel hspare]
    _ ≤ n / (d * spacing (n / d)) * spacing (n / d) := Nat.mul_le_mul_right _ hquotient
    _ ≤ roundUnits n d := Nat.mul_le_mul_right _ (div_le_roundHalfEven _ _)

/-! ## Results that are numbers -/

theorem ofUnits_ne_nan (negative : Bool) (n d : Nat) : ofUnits negative n d ≠ .nan := by
  unfold ofUnits
  split <;> simp

theorem ofInt_ne_nan (i : Int) : ofInt i ≠ .nan := ofUnits_ne_nan _ _ _

theorem mul_ne_nan {x : Binary64} {y : Finite} (hx : x ≠ .nan)
    (hy : y.magnitude.isZero = false) : x.mul (.finite y) ≠ .nan := by
  match x with
  | .nan => exact (hx rfl).elim
  | .infinite negative => simp [Binary64.mul, hy]
  | .finite x =>
      rw [Binary64.mul]
      exact ofUnits_ne_nan _ _ _

theorem div_eq_ofUnits (x : Finite) {y : Finite} (hy : y.magnitude.units ≠ 0) :
    (finite x).div (.finite y) =
      ofUnits (x.negative != y.negative) (x.magnitude.units * unitsOfOne) y.magnitude.units := by
  have hzero : y.magnitude.isZero = false := by
    rw [Magnitude.isZero, beq_eq_false_iff_ne]
    exact hy
  rw [div, hzero, if_neg Bool.false_ne_true]

theorem div_ne_nan {x : Binary64} {y : Finite} (hx : x ≠ .nan)
    (hy : y.magnitude.isZero = false) : x.div (.finite y) ≠ .nan := by
  match x with
  | .nan => exact (hx rfl).elim
  | .infinite negative => simp [div]
  | .finite x =>
      simp only [div, hy, Bool.false_eq_true, if_false]
      exact ofUnits_ne_nan _ _ _

/-- Only finite factors have a finite product. -/
theorem exists_eq_finite_of_mul {x y : Binary64} {z : Finite} (h : x.mul y = .finite z) :
    ∃ x', x = .finite x' := by
  match x, y with
  | .finite x, _ => exact ⟨x, rfl⟩
  | .nan, _ => cases h
  | .infinite _, .nan => cases h
  | .infinite _, .infinite _ => cases h
  | .infinite _, .finite y => cases hzero : y.magnitude.isZero <;> simp [Binary64.mul, hzero] at h

/-- Only finite dividends have a finite quotient. -/
theorem exists_eq_finite_of_div {x y : Binary64} {z : Finite} (h : x.div y = .finite z) :
    ∃ x', x = .finite x' := by
  match x, y with
  | .finite x, _ => exact ⟨x, rfl⟩
  | .nan, _ => cases h
  | .infinite _, .nan => cases h
  | .infinite _, .infinite _ => cases h
  | .infinite _, .finite _ => cases h

/-! ## Products -/

/-- Whether `x` is at least `2 ^ j`. -/
def AtLeast (j : Nat) : Binary64 → Prop
  | .nan => False
  | .infinite negative => negative = false
  | .finite x => x.negative = false ∧ unitsOfOne * 2 ^ j ≤ x.magnitude.units

theorem atLeast_ofUnits {n d j : Nat} (h : unitsOfOne * 2 ^ j ≤ n / d) :
    (ofUnits false n d).AtLeast j := by
  have hround : unitsOfOne * 2 ^ j ≤ roundUnits n d := by
    rw [unitsOfOne_mul_two_pow] at h ⊢
    exact two_pow_le_roundUnits h
  by_cases hlt : roundUnits n d < unitLimit
  · obtain ⟨m, hunits, hfinite⟩ := ofUnits_of_lt false hlt
    rw [hfinite]
    exact ⟨rfl, hunits ▸ hround⟩
  · rw [ofUnits_of_le false (Nat.not_lt.1 hlt)]
    rfl

theorem not_isZero_of_le {m : Magnitude} {j : Nat} (h : unitsOfOne * 2 ^ j ≤ m.units) :
    m.isZero = false := by
  have hpos : 0 < unitsOfOne * 2 ^ j := Nat.mul_pos unitsOfOne_pos (Nat.two_pow_pos j)
  rw [Magnitude.isZero, beq_eq_false_iff_ne]
  omega

theorem AtLeast.mul {x y : Binary64} {j k : Nat} (hx : x.AtLeast j) (hy : y.AtLeast k) :
    (x.mul y).AtLeast (j + k) := by
  match x, y with
  | .nan, _ => exact hx.elim
  | .infinite _, .nan => exact hy.elim
  | .finite _, .nan => exact hy.elim
  | .infinite s, .infinite t =>
      obtain rfl : s = false := hx
      obtain rfl : t = false := hy
      rfl
  | .infinite s, .finite y =>
      obtain rfl : s = false := hx
      simp [Binary64.mul, not_isZero_of_le hy.2, hy.1, AtLeast]
  | .finite x, .infinite t =>
      obtain rfl : t = false := hy
      simp [Binary64.mul, not_isZero_of_le hx.2, hx.1, AtLeast]
  | .finite x, .finite y =>
      have hproduct : unitsOfOne * 2 ^ (j + k) ≤
          x.magnitude.units * y.magnitude.units / unitsOfOne := by
        rw [Nat.le_div_iff_mul_le unitsOfOne_pos]
        calc
          unitsOfOne * 2 ^ (j + k) * unitsOfOne = unitsOfOne * 2 ^ j * (unitsOfOne * 2 ^ k) := by
            rw [Nat.pow_add]
            ac_rfl
          _ ≤ x.magnitude.units * y.magnitude.units := Nat.mul_le_mul hx.2 hy.2
      simp only [Binary64.mul, hx.1, hy.1, bne_self_eq_false]
      exact atLeast_ofUnits hproduct

/-! ## Powers -/

/-- Each squaring doubles the bound `j` and halves the count of factors that are left. -/
theorem AtLeast.go {square product : Binary64} {j k : Nat} (n : Nat) (hsquare : square.AtLeast j)
    (hproduct : product.AtLeast k) : (powNat.go square n product).AtLeast (j * n + k) := by
  induction n using Nat.strongRecOn generalizing square product j k with
  | ind n ih =>
      have hnext : (if n % 2 = 1 then product.mul square else product).AtLeast
          (j * (n % 2) + k) := by
        rcases Nat.mod_two_eq_zero_or_one n with hparity | hparity
        · simpa [hparity] using hproduct
        · simpa [hparity, Nat.add_comm] using hproduct.mul hsquare
      have hsplit : j * n + k = (j + j) * (n / 2) + (j * (n % 2) + k) := by
        conv_lhs => rw [← Nat.div_add_mod n 2]
        ring
      unfold powNat.go
      dsimp only
      split
      · next hhalf =>
          rw [hsplit, hhalf, Nat.mul_zero, Nat.zero_add]
          exact hnext
      · next hhalf =>
          rw [hsplit]
          exact ih (n / 2) (by omega) (hsquare.mul hsquare) hnext

theorem eq_infinite_of_atLeast {x : Binary64} {j : Nat} (h : x.AtLeast j) (hj : 1024 ≤ j) :
    x = .infinite false := by
  match x with
  | .nan => exact h.elim
  | .infinite negative => exact congrArg infinite h
  | .finite x =>
      have hlimit : unitLimit ≤ x.magnitude.units := by
        rw [unitLimit_eq]
        exact Nat.le_trans (Nat.mul_le_mul_left _ (Nat.pow_le_pow_right (by decide) hj)) h.2
      exact absurd x.magnitude.units_lt (Nat.not_lt.2 hlimit)

/-- Ten is more than `2 ^ 3`, so its powers are infinite from exponent 342 on. -/
theorem powTen_eq_infinite {e : Int} (he : 342 ≤ e) : powTen e = .infinite false := by
  have hten : (ofInt 10).AtLeast 3 := atLeast_ofUnits (by simp; omega)
  have hone : (ofInt 1).AtLeast 0 := atLeast_ofUnits (by simp)
  have hpower := AtLeast.go e.natAbs hten hone
  rw [powTen, if_neg (by omega)]
  exact eq_infinite_of_atLeast hpower (by omega)

/-! ## Decades -/

/-- Ten is more than `2 ^ 3`, so a magnitude below `2 ^ 1024` is below `10 ^ 342`. -/
theorem decade_bounds (m : Magnitude) : -324 ≤ m.decade ∧ m.decade ≤ 341 := by
  have hpow : 2 ^ 1024 ≤ 10 ^ 342 :=
    calc
      2 ^ 1024 ≤ 2 ^ (3 * 342) := Nat.pow_le_pow_right (by decide) (by decide)
      _ = (2 ^ 3) ^ 342 := Nat.pow_mul 2 3 342
      _ ≤ 10 ^ 342 := Nat.pow_le_pow_left (by decide) 342
  have hunits : m.units < unitsOfOne * 10 ^ 342 :=
    calc
      m.units < unitLimit := m.units_lt
      _ = unitsOfOne * 2 ^ 1024 := unitLimit_eq
      _ ≤ unitsOfOne * 10 ^ 342 := Nat.mul_le_mul_left _ hpow
  have hquotient : m.units * 10 ^ 324 / unitsOfOne < 10 ^ 666 := by
    apply Nat.div_lt_of_lt_mul
    calc
      m.units * 10 ^ 324 < unitsOfOne * 10 ^ 342 * 10 ^ 324 :=
        Nat.mul_lt_mul_of_pos_right hunits (Nat.pow_pos (by decide))
      _ = unitsOfOne * 10 ^ 666 := by rw [Nat.mul_assoc, ← Nat.pow_add]
  have hle := (length_digits_le_iff (by decide : 0 < 666)).2 hquotient
  have hpos := List.length_pos_iff.2 (digits_ne_nil (m.units * 10 ^ 324 / unitsOfOne))
  unfold Magnitude.decade
  omega

end Phrasebook.Binary64
