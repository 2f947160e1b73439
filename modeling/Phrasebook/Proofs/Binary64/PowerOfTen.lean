import Mathlib.Data.Int.SuccPred
import Mathlib.Tactic.NormNum
import Phrasebook.Proofs.Binary64.Accuracy

/-!
# Powers of ten

The powers of ten up to `10 ^ 22` are exact, and behind them a power is the result of one rounding
for every factor `10 ^ 16` at most, so the powers grow with their exponents. They are infinite from
exponent 309 on and zero below exponent -308; in between a power is its exact value up to these
roundings.
-/

namespace Phrasebook.Binary64

attribute [local irreducible] unitsOfOne unitLimit

/-! ## Bounds for errors -/

theorem one_sub_mul_le_pow (k : Nat) : 1 - k * roundoff ≤ (1 - roundoff) ^ k := by
  have hbernoulli := one_add_mul_le_pow (by linarith [roundoff_lt_one] : -2 ≤ -roundoff) k
  rw [← sub_eq_add_neg] at hbernoulli
  linarith

theorem nine_tenths_le_pow {k : Nat} (hk : k ≤ 1000) : 9 / 10 ≤ (1 - roundoff) ^ k := by
  have hk' : (k : ℚ) ≤ 1000 := by exact_mod_cast hk
  have hmul : (k : ℚ) * roundoff ≤ 1000 * roundoff :=
    mul_le_mul_of_nonneg_right hk' roundoff_pos.le
  have hsmall : 1000 * roundoff ≤ 1 / 10 := by norm_num [roundoff]
  exact le_trans (by linarith) (one_sub_mul_le_pow k)

theorem finiteLimit_eq : finiteLimit = ((2 ^ 1024 : Nat) : ℚ) := by
  rw [finiteLimit, unitLimit_eq, Nat.cast_mul]
  exact mul_div_cancel_left₀ _ unitsOfOne_cast_pos.ne'

theorem ten_pow_lt_finiteLimit : (10 : ℚ) ^ 308 < finiteLimit * (9 / 10) := by
  have hnat : 10 * 10 ^ 308 < 9 * 2 ^ 1024 := by
    calc
      10 * 10 ^ 308 = 10 * (10 ^ 154) ^ 2 := by rw [← Nat.pow_mul]
      _ < 9 * (2 ^ 256) ^ 4 := by norm_num
      _ = 9 * 2 ^ 1024 := by rw [← Nat.pow_mul]
  have hcast : (10 : ℚ) * 10 ^ 308 < 9 * ((2 ^ 1024 : Nat) : ℚ) := by exact_mod_cast hnat
  rw [finiteLimit_eq]
  linarith

theorem ten_thousand_lt_finiteLimit : 10000 < finiteLimit * (9 / 10) := by
  have hpow : (10 : ℚ) ^ 4 ≤ 10 ^ 308 := pow_le_pow_right₀ (by norm_num) (by decide)
  have hfour : (10 : ℚ) ^ 4 = 10000 := by norm_num
  exact hfour ▸ hpow.trans_lt ten_pow_lt_finiteLimit

theorem finiteLimit_le_ten_pow : finiteLimit ≤ (10 : ℚ) ^ 309 * (9 / 10) := by
  have hnat : 10 * 2 ^ 1024 ≤ 9 * 10 ^ 309 := by
    calc
      10 * 2 ^ 1024 = 10 * (2 ^ 256) ^ 4 := by rw [← Nat.pow_mul]
      _ ≤ 9 * (10 ^ 103) ^ 3 := by norm_num
      _ = 9 * 10 ^ 309 := by rw [← Nat.pow_mul]
  have hcast : (10 : ℚ) * ((2 ^ 1024 : Nat) : ℚ) ≤ 9 * 10 ^ 309 := by exact_mod_cast hnat
  rw [finiteLimit_eq]
  linarith

theorem Near.size_le {x y : Binary64} {v w : ℚ} {j k : Nat} (hx : x.Near v j) (hy : y.Near w k)
    (h : v ≤ w * (1 - roundoff) ^ (j + k)) : x.size ≤ y.size := by
  have hpos := one_sub_roundoff_pow_pos j
  rw [add_comm, pow_add, ← mul_assoc] at h
  match x, y with
  | .nan, _ => exact hx.elim
  | _, .nan => exact hy.elim
  | _, .infinite _ => exact le_top
  | .infinite _, .finite y =>
      have hlimit : finiteLimit ≤ w * (1 - roundoff) ^ k :=
        le_of_mul_le_mul_right (hx.2.trans h) hpos
      exact absurd (hlimit.trans hy.2.1) (not_le.2 y.magnitude.value_lt)
  | .finite x, .finite y =>
      have hvalue : x.magnitude.value ≤ w * (1 - roundoff) ^ k :=
        le_of_mul_le_mul_right (hx.2.2.trans h) hpos
      have hunits := hvalue.trans hy.2.1
      rw [Magnitude.value, Magnitude.value,
        div_le_div_iff_of_pos_right unitsOfOne_cast_pos] at hunits
      exact WithTop.coe_le_coe.2 (by exact_mod_cast hunits)

/-! ## Whole powers -/

/-- The power of ten with a natural exponent. -/
def power (n : Nat) : Binary64 := (ofInt 10).powNat n

theorem atLeast_power (n : Nat) : (power n).AtLeast 0 := by
  have hten : (ofInt 10).AtLeast 0 := atLeast_ofUnits (by simp; omega)
  have hone : (ofInt 1).AtLeast 0 := atLeast_ofUnits (by simp)
  simpa [power, powNat] using AtLeast.go n hten hone

theorem go_zero (square product : Binary64) : powNat.go square 0 product = product := by
  unfold powNat.go
  rfl

theorem go_eq_go_half (square : Binary64) (n : Nat) (product : Binary64) :
    powNat.go square n product =
      powNat.go (square.mul square) (n / 2)
        (if n % 2 = 1 then product.mul square else product) := by
  rw [powNat.go]
  split
  · next hhalf => rw [hhalf, go_zero]
  · rfl

/-- The lowest bits of an exponent come first, then the others with a base that has been squared. -/
theorem go_split (square : Binary64) (n : Nat) (product : Binary64) (count : Nat) :
    powNat.go square n product =
      powNat.go ((fun x => x.mul x)^[count] square) (n / 2 ^ count)
        (powNat.go square (n % 2 ^ count) product) := by
  induction count generalizing square n product with
  | zero => rw [Nat.pow_zero, Nat.div_one, Nat.mod_one, go_zero, Function.iterate_zero_apply]
  | succ count ih =>
      have hrest : n % 2 ^ (count + 1) / 2 = n / 2 % 2 ^ count := by
        rw [Nat.pow_succ', Nat.mod_mul_right_div_self]
      have hbit : n % 2 ^ (count + 1) % 2 = n % 2 :=
        Nat.mod_mod_of_dvd n (Nat.dvd_of_pow_dvd (Nat.succ_pos count) dvd_rfl)
      rw [go_eq_go_half square n, go_eq_go_half square (n % _), ih, hrest, hbit, Nat.pow_succ',
        Nat.div_div_eq_div_mul, Function.iterate_succ_apply]

theorem near_power_of_le {n : Nat} (hn : n ≤ 22) : (power n).Near (10 ^ n) 0 := by
  have hsize : ∀ n < 23, (power n).size = ((10 ^ n * unitsOfOne : Nat) : WithTop Nat) := by
    decide +kernel
  have hpower := hsize n (Nat.lt_succ_iff.2 hn)
  have hatLeast := atLeast_power n
  match h : power n with
  | .nan => exact (h ▸ hatLeast).elim
  | .infinite _ =>
      rw [h] at hpower
      cases hpower
  | .finite x =>
      rw [h] at hpower hatLeast
      have hunits : x.magnitude.units = 10 ^ n * unitsOfOne := WithTop.coe_inj.1 hpower
      refine ⟨hatLeast.1, ?_⟩
      rw [Magnitude.value_of_units hunits, Nat.cast_pow]
      exact Within.refl _

/-- The roundings of a natural power of ten. -/
def powerRoundings (n : Nat) : Nat := if n ≤ 22 then 0 else n / 16

theorem powerRoundings_le (n : Nat) : powerRoundings n ≤ n / 16 := by
  unfold powerRoundings
  split
  · exact Nat.zero_le _
  · exact le_rfl

theorem near_power (n : Nat) : (power n).Near (10 ^ n) (powerRoundings n) := by
  unfold powerRoundings
  split
  · next hn => exact near_power_of_le hn
  · have hbase : (fun x : Binary64 => x.mul x)^[4] (ofInt 10) = power 16 := by
      decide +kernel
    have hsplit : power n = powNat.go (power 16) (n / 16) (power (n % 16)) := by
      rw [power, powNat, go_split _ n _ 4, hbase]
      rfl
    have hgo := Near.go (n / 16) (near_power_of_le (by decide : 16 ≤ 22))
      (near_power_of_le (by omega : n % 16 ≤ 22)) (atLeast_power 16) (atLeast_power _)
      (by positivity) (by positivity)
    rw [← hsplit, ← pow_mul, ← pow_add, Nat.div_add_mod] at hgo
    simpa using hgo

theorem powTen_natCast (n : Nat) : powTen n = power n := by
  rw [powTen, if_neg (by omega), Int.natAbs_natCast]
  rfl

theorem powTen_negSucc (n : Nat) : powTen (Int.negSucc n) = (ofInt 1).div (power (n + 1)) := by
  rw [powTen, if_pos (Int.negSucc_lt_zero n)]
  rfl

theorem powTen_zero : powTen 0 = ofInt 1 := by
  rw [powTen, if_neg (by decide), Int.natAbs_zero, powNat, powNat.go]
  rfl

theorem ofInt_one : ∃ m : Magnitude, m.units = unitsOfOne ∧ ofInt 1 = .finite ⟨false, m⟩ := by
  obtain ⟨m, hunits, hone⟩ := ofInt_natCast (by decide : 1 ≤ 2 ^ 53)
  exact ⟨m, hunits.trans (Nat.one_mul _), hone⟩

/-- Whether a number has no minus sign. -/
def IsUnsigned : Binary64 → Prop
  | .nan => False
  | .infinite negative => negative = false
  | .finite x => x.negative = false

theorem isUnsigned_ofUnits (n d : Nat) : (ofUnits false n d).IsUnsigned := by
  by_cases hlt : roundUnits n d < unitLimit
  · obtain ⟨m, -, hfinite⟩ := ofUnits_of_lt false hlt
    rw [hfinite]
    rfl
  · rw [ofUnits_of_le false (Nat.not_lt.1 hlt)]
    rfl

theorem AtLeast.isUnsigned {x : Binary64} {j : Nat} (h : x.AtLeast j) : x.IsUnsigned := by
  match x with
  | .nan => exact h
  | .infinite _ => exact h
  | .finite _ => exact h.1

theorem isUnsigned_powTen (e : Int) : (powTen e).IsUnsigned := by
  obtain ⟨one, -, hone⟩ := ofInt_one
  cases e with
  | ofNat n =>
      rw [Int.ofNat_eq_natCast, powTen_natCast]
      exact (atLeast_power n).isUnsigned
  | negSucc n =>
      have hpower := atLeast_power (n + 1)
      rw [powTen_negSucc, hone]
      match h : power (n + 1) with
      | .nan => exact (h ▸ hpower).elim
      | .infinite negative =>
          rw [h] at hpower
          obtain rfl : negative = false := hpower
          rfl
      | .finite x =>
          rw [h] at hpower
          simp only [div, not_isZero_of_le hpower.2, hpower.1, Bool.false_eq_true, if_false]
          exact isUnsigned_ofUnits _ _

theorem powTen_ne_nan (e : Int) : powTen e ≠ .nan := by
  intro hnan
  have hpower := isUnsigned_powTen e
  rw [hnan] at hpower
  exact hpower

theorem negative_of_ofUnits_eq_finite {negative : Bool} {n d : Nat} {q : Finite}
    (h : ofUnits negative n d = .finite q) : q.negative = negative := by
  by_cases hlt : roundUnits n d < unitLimit
  · obtain ⟨m, -, hfinite⟩ := ofUnits_of_lt negative hlt
    rw [hfinite, finite.injEq] at h
    rw [← h]
  · rw [ofUnits_of_le negative (Nat.not_lt.1 hlt)] at h
    cases h

theorem negative_of_div_eq_finite {x q : Finite} {y : Binary64} (hy : y.IsUnsigned)
    (h : (Binary64.finite x).div y = .finite q) : q.negative = x.negative := by
  match y with
  | .nan => exact hy.elim
  | .infinite negative =>
      obtain rfl : negative = false := hy
      rw [div, Bool.bne_false, finite.injEq] at h
      rw [← h]
  | .finite y =>
      have hsign : (x.negative != y.negative) = x.negative := by
        rw [show y.negative = false from hy, Bool.bne_false]
      rw [div, hsign] at h
      split at h
      · split at h <;> cases h
      · exact negative_of_ofUnits_eq_finite h

/-! ## The order of the powers -/

theorem size_power_le_succ (n : Nat) : (power n).size ≤ (power (n + 1)).size := by
  rcases Nat.lt_or_ge n 341 with hn | hn
  · have hfew : powerRoundings n + powerRoundings (n + 1) ≤ 1000 := by
      have hle := powerRoundings_le n
      have hle' := powerRoundings_le (n + 1)
      omega
    apply (near_power n).size_le (near_power (n + 1))
    calc
      (10 : ℚ) ^ n ≤ 10 ^ (n + 1) * (9 / 10) := by
        rw [pow_succ]
        linarith [pow_pos (by norm_num : (0 : ℚ) < 10) n]
      _ ≤ 10 ^ (n + 1) * (1 - roundoff) ^ (powerRoundings n + powerRoundings (n + 1)) := by
        apply mul_le_mul_of_nonneg_left (nine_tenths_le_pow hfew)
        positivity
  · have hinfinite := powTen_eq_infinite (by omega : 342 ≤ ((n + 1 : Nat) : Int))
    rw [powTen_natCast] at hinfinite
    rw [hinfinite]
    exact le_top

theorem div_ofInt_one (x : Finite) : (finite x).div (ofInt 1) = .finite x := by
  obtain ⟨one, hunits, hone⟩ := ofInt_one
  have hquotient : x.magnitude.units * unitsOfOne * 1 = x.magnitude.units * unitsOfOne :=
    Nat.mul_one _
  have hdiv := @div_eq_ofUnits x ⟨false, one⟩ (hunits ▸ unitsOfOne_pos.ne')
  rw [hone, hdiv, hunits, Bool.bne_false, ofUnits_congr unitsOfOne_pos Nat.one_pos hquotient]
  exact ofUnits_units x.negative x.magnitude

theorem size_powTen_le_succ (e : Int) : (powTen e).size ≤ (powTen (e + 1)).size := by
  obtain ⟨one, -, hone⟩ := ofInt_one
  have hpower : ∀ n, power n ≠ .nan := fun n => powTen_natCast n ▸ powTen_ne_nan n
  match e with
  | .ofNat n =>
      have hpowers := size_power_le_succ n
      rw [← powTen_natCast, ← powTen_natCast] at hpowers
      exact hpowers
  | .negSucc 0 =>
      have hpowers := size_power_le_succ 0
      rw [← powTen_natCast, Nat.cast_zero, powTen_zero] at hpowers
      have hdiv := size_div_anti ⟨false, one⟩ (hpower 1) hpowers
      rw [div_ofInt_one, ← hone] at hdiv
      rw [powTen_negSucc, show Int.negSucc 0 + 1 = 0 from rfl, powTen_zero]
      exact hdiv
  | .negSucc (n + 1) =>
      rw [show Int.negSucc (n + 1) + 1 = Int.negSucc n from rfl, powTen_negSucc, powTen_negSucc,
        hone]
      exact size_div_anti _ (hpower _) (size_power_le_succ _)

theorem size_powTen_mono {e f : Int} (h : e ≤ f) : (powTen e).size ≤ (powTen f).size :=
  monotone_int_of_le_succ size_powTen_le_succ h

/-! ## Where the powers leave the finite numbers -/

theorem power_eq_infinite {n : Nat} (hn : 309 ≤ n) : power n = .infinite false := by
  rcases Nat.lt_or_ge n 342 with hlt | hge
  · have hnear := near_power n
    match h : power n with
    | .nan => exact (h ▸ hnear).elim
    | .infinite negative =>
        rw [h] at hnear
        rw [hnear.1]
    | .finite x =>
        rw [h] at hnear
        have hfew : powerRoundings n ≤ 1000 := (powerRoundings_le n).trans (by omega)
        have hlimit : finiteLimit ≤ x.magnitude.value :=
          calc
            finiteLimit ≤ (10 : ℚ) ^ 309 * (9 / 10) := finiteLimit_le_ten_pow
            _ ≤ 10 ^ n * (1 - roundoff) ^ powerRoundings n :=
              mul_le_mul (pow_le_pow_right₀ (by norm_num) hn) (nine_tenths_le_pow hfew)
                (by norm_num) (pow_nonneg (by norm_num) n)
            _ ≤ x.magnitude.value := hnear.2.1
        exact absurd hlimit (not_le.2 x.magnitude.value_lt)
  · rw [← powTen_natCast]
    exact powTen_eq_infinite (by omega)

theorem powTen_eq_infinite_of_le {e : Int} (he : 309 ≤ e) : powTen e = .infinite false := by
  obtain ⟨n, rfl⟩ := Int.eq_ofNat_of_zero_le (by omega : 0 ≤ e)
  rw [powTen_natCast]
  exact power_eq_infinite (by omega)

theorem powTen_eq_zero {e : Int} (he : e < -308) : powTen e = .finite ⟨false, .zero⟩ := by
  obtain ⟨one, -, hone⟩ := ofInt_one
  obtain ⟨n, rfl⟩ := Int.eq_negSucc_of_lt_zero (by omega : e < 0)
  rw [powTen_negSucc, power_eq_infinite (by omega), hone]
  rfl

/-- What is near to a number that the powers reach is finite. -/
theorem Near.exists_eq_finite {x : Binary64} {v : ℚ} {k : Nat} (h : x.Near v k)
    (hk : k ≤ 1000) (hv : v ≤ 10 ^ 308) :
    ∃ m : Magnitude, x = .finite ⟨false, m⟩ ∧ Within v k m.value := by
  match x with
  | .nan => exact h.elim
  | .infinite negative =>
      have hlimit : finiteLimit * (9 / 10) ≤ 10 ^ 308 :=
        calc
          finiteLimit * (9 / 10) ≤ finiteLimit * (1 - roundoff) ^ k :=
            mul_le_mul_of_nonneg_left (nine_tenths_le_pow hk)
              (zero_le_one.trans one_le_finiteLimit)
          _ ≤ v := h.2
          _ ≤ 10 ^ 308 := hv
      exact absurd hlimit (not_le.2 ten_pow_lt_finiteLimit)
  | .finite ⟨negative, m⟩ =>
      obtain ⟨rfl, hwithin⟩ := h
      exact ⟨m, rfl, hwithin⟩

theorem power_eq_finite {n : Nat} (hn : n ≤ 308) :
    ∃ m : Magnitude, power n = .finite ⟨false, m⟩ ∧ Within (10 ^ n) (powerRoundings n) m.value :=
  (near_power n).exists_eq_finite ((powerRoundings_le n).trans (by omega))
    (pow_le_pow_right₀ (by norm_num) hn)

/-- Not only the power that is computed, but also the number nearest to it is finite. -/
theorem exists_ofRatio_ten_pow_eq_finite :
    ∃ x : Finite, ofRatio false (10 ^ 308) 1 = .finite x ∧ (finite x).AtLeast 1023 := by
  have hpow : 2 ^ 1023 ≤ 10 ^ 308 := by
    calc
      2 ^ 1023 = (2 ^ 93) ^ 11 := Nat.pow_mul 2 93 11
      _ ≤ (10 ^ 28) ^ 11 := by norm_num
      _ = 10 ^ 308 := by rw [← Nat.pow_mul]
  have hunits : unitsOfOne * 2 ^ 1023 ≤ 10 ^ 308 * unitsOfOne / 1 := by
    rw [Nat.div_one, Nat.mul_comm]
    exact Nat.mul_le_mul_right _ hpow
  have hatLeast : (ofRatio false (10 ^ 308) 1).AtLeast 1023 := atLeast_ofUnits hunits
  have hnear : (ofRatio false (10 ^ 308) 1).Near (10 ^ 308) 1 := by
    have hmany : 2 ^ 52 ≤ 10 ^ 308 * unitsOfOne / 1 :=
      two_pow_le_unitsOfOne.trans ((Nat.le_mul_of_pos_right _ (Nat.two_pow_pos _)).trans hunits)
    refine near_ofUnits (k := 0) one_pos hmany ?_
    have hvalue : ((10 ^ 308 * unitsOfOne : Nat) : ℚ) / (1 : Nat) / unitsOfOne = 10 ^ 308 := by
      rw [Nat.cast_one, div_one, Nat.cast_mul, Nat.cast_pow]
      exact mul_div_cancel_right₀ _ unitsOfOne_cast_pos.ne'
    rw [hvalue]
    exact Within.refl _
  obtain ⟨m, hfinite, -⟩ := hnear.exists_eq_finite (by decide) le_rfl
  exact ⟨⟨false, m⟩, hfinite, hfinite ▸ hatLeast⟩

/-! ## Quotients -/

/-- The least value above which numbers have all 53 bits. -/
def leastNormal : ℚ := 2 ^ 52 / unitsOfOne

theorem leastNormal_mul_le : leastNormal * 10 ^ 307 ≤ 9 / 10 := by
  have hnat : 10 * (2 ^ 52 * 10 ^ 307) ≤ 9 * 2 ^ 1074 := by
    calc
      10 * (2 ^ 52 * 10 ^ 307) = 2 ^ 52 * (10 ^ 154) ^ 2 := by
        rw [← Nat.pow_mul, Nat.mul_left_comm, ← Nat.pow_succ']
      _ ≤ 9 * (2 ^ 179) ^ 6 := by norm_num
      _ = 9 * 2 ^ 1074 := by rw [← Nat.pow_mul]
  have hunits : unitsOfOne = 2 ^ 1074 := by
    unfold unitsOfOne
    rfl
  rw [← hunits] at hnat
  have hcast : (10 : ℚ) * (2 ^ 52 * 10 ^ 307) ≤ 9 * unitsOfOne := by exact_mod_cast hnat
  rw [leastNormal, div_mul_eq_mul_div, div_le_div_iff₀ unitsOfOne_cast_pos (by norm_num)]
  linarith

theorem leastNormal_le : leastNormal ≤ 1 / 1000 := by
  have hpow : (10 : ℚ) ^ 3 ≤ 10 ^ 307 := pow_le_pow_right₀ (by norm_num) (by decide)
  have hleast : 0 ≤ leastNormal := div_nonneg (by norm_num) unitsOfOne_cast_pos.le
  have hproduct := (mul_le_mul_of_nonneg_left hpow hleast).trans leastNormal_mul_le
  linarith

/-- The greatest relative error of `k` roundings. -/
def relativeError (k : Nat) : ℚ := k * roundoff / (1 - k * roundoff)

theorem mul_roundoff_le {k : Nat} (hk : k ≤ 1000) : (k : ℚ) * roundoff ≤ 1 / 10 := by
  have hk' : (k : ℚ) ≤ 1000 := by exact_mod_cast hk
  exact (mul_le_mul_of_nonneg_right hk' roundoff_pos.le).trans (by norm_num [roundoff])

theorem one_sub_mul_one_add_relativeError {k : Nat} (hk : k ≤ 1000) :
    (1 - k * roundoff) * (1 + relativeError k) = 1 := by
  have hpos : 1 - (k : ℚ) * roundoff ≠ 0 := by linarith [mul_roundoff_le hk]
  rw [relativeError]
  field_simp
  ring

theorem mul_roundoff_le_relativeError {k : Nat} (hk : k ≤ 1000) :
    k * roundoff ≤ relativeError k := by
  have hnonneg : 0 ≤ (k : ℚ) * roundoff := mul_nonneg (Nat.cast_nonneg k) roundoff_pos.le
  apply le_div_self hnonneg <;> linarith [mul_roundoff_le hk]

theorem relativeError_le {k : Nat} (hk : k ≤ 1000) :
    relativeError k ≤ k * roundoff * (10 / 9) := by
  have hnonneg : 0 ≤ (k : ℚ) * roundoff := mul_nonneg (Nat.cast_nonneg k) roundoff_pos.le
  have hsmall := mul_roundoff_le hk
  rw [relativeError, div_le_iff₀ (by linarith)]
  have hproduct := mul_nonneg hnonneg (sub_nonneg.2 hsmall)
  linarith

namespace Within

variable {v x : ℚ} {k : Nat}

theorem nine_tenths_mul_le (h : Within v k x) (hk : k ≤ 1000) (hx : 0 ≤ x) : x * (9 / 10) ≤ v :=
  (mul_le_mul_of_nonneg_left (nine_tenths_le_pow hk) hx).trans h.2

theorem abs_sub_le (h : Within v k x) (hk : k ≤ 1000) (hv : 0 ≤ v) (hx : 0 ≤ x) :
    |x - v| ≤ v * relativeError k := by
  have herror := one_sub_mul_le_pow k
  have hinverse := one_sub_mul_one_add_relativeError hk
  have hbounds := mul_roundoff_le_relativeError hk
  have hnonneg : 0 ≤ (k : ℚ) * roundoff := mul_nonneg (Nat.cast_nonneg k) roundoff_pos.le
  have hlow : v * (1 - k * roundoff) ≤ x := (mul_le_mul_of_nonneg_left herror hv).trans h.1
  have hhigh : x * (1 - k * roundoff) ≤ v := (mul_le_mul_of_nonneg_left herror hx).trans h.2
  have hfactor : 0 ≤ 1 + relativeError k := by linarith
  rw [abs_le]
  constructor
  · linarith [mul_le_mul_of_nonneg_left hbounds hv]
  · have hbound : x ≤ v * (1 + relativeError k) :=
      calc
        x = x * (1 - k * roundoff) * (1 + relativeError k) := by rw [mul_assoc, hinverse, mul_one]
        _ ≤ v * (1 + relativeError k) := mul_le_mul_of_nonneg_right hhigh hfactor
    linarith

end Within

theorem within_div {x y : Finite} (hy : 0 < y.magnitude.value)
    (hlow : leastNormal ≤ x.magnitude.value / y.magnitude.value)
    (hhigh : x.magnitude.value / y.magnitude.value < finiteLimit * (9 / 10)) :
    ∃ m : Magnitude, (Binary64.finite x).div (.finite y) =
        .finite ⟨x.negative != y.negative, m⟩ ∧
      Within (x.magnitude.value / y.magnitude.value) 1 m.value := by
  have hone := unitsOfOne_cast_pos
  have hpos := Magnitude.units_pos hy
  have hquotient : ((x.magnitude.units * unitsOfOne : Nat) : ℚ) / y.magnitude.units / unitsOfOne =
      x.magnitude.value / y.magnitude.value := by
    rw [Magnitude.value, Magnitude.value, div_div_div_cancel_right₀ hone.ne', Nat.cast_mul,
      mul_div_right_comm, mul_div_cancel_right₀ _ hone.ne']
  have hnormal : 2 ^ 52 ≤ x.magnitude.units * unitsOfOne / y.magnitude.units := by
    have hpos' : (0 : ℚ) < y.magnitude.units := by exact_mod_cast hpos
    rw [← hquotient, leastNormal, div_le_div_iff_of_pos_right hone, le_div_iff₀ hpos'] at hlow
    rw [Nat.le_div_iff_mul_le hpos]
    exact_mod_cast hlow
  have hwithin := within_roundUnits hpos hnormal
  rw [hquotient] at hwithin
  have hlimit : roundUnits (x.magnitude.units * unitsOfOne) y.magnitude.units < unitLimit := by
    have hlt := (hwithin.nine_tenths_mul_le (by decide)
      (div_nonneg (Nat.cast_nonneg _) hone.le)).trans_lt hhigh
    have hvalue := lt_of_mul_lt_mul_right hlt (by norm_num)
    rw [finiteLimit, div_lt_div_iff_of_pos_right hone] at hvalue
    exact_mod_cast hvalue
  obtain ⟨m, hunits, hfinite⟩ := ofUnits_of_lt (x.negative != y.negative) hlimit
  refine ⟨m, (div_eq_ofUnits x hpos.ne').trans hfinite, ?_⟩
  rwa [← hunits] at hwithin

/-- Two comparisons of naturals say that the units make up a negative power up to roundings. -/
theorem within_of_units {m : Magnitude} {n k : Nat}
    (hlow : unitsOfOne * (2 ^ 53 - 1) ^ k ≤ m.units * 10 ^ n * (2 ^ 53) ^ k)
    (hhigh : m.units * 10 ^ n * (2 ^ 53 - 1) ^ k ≤ unitsOfOne * (2 ^ 53) ^ k) :
    Within (10 ^ n)⁻¹ k m.value := by
  have hfactor : 1 - roundoff = ((2 ^ 53 - 1 : Nat) : ℚ) / ((2 ^ 53 : Nat) : ℚ) := by
    norm_num [roundoff]
  have hone := unitsOfOne_cast_pos
  have hten : (0 : ℚ) < 10 ^ n := by positivity
  have hscale : (0 : ℚ) < ((2 ^ 53 : Nat) : ℚ) ^ k := by positivity
  have hlow' : (unitsOfOne : ℚ) * ((2 ^ 53 - 1 : Nat) : ℚ) ^ k ≤
      m.units * 10 ^ n * ((2 ^ 53 : Nat) : ℚ) ^ k := by exact_mod_cast hlow
  have hhigh' : m.units * 10 ^ n * ((2 ^ 53 - 1 : Nat) : ℚ) ^ k ≤
      unitsOfOne * ((2 ^ 53 : Nat) : ℚ) ^ k := by exact_mod_cast hhigh
  rw [Within, hfactor, div_pow, Magnitude.value, inv_eq_one_div, div_mul_div_comm,
    div_mul_div_comm, div_le_div_iff₀ (mul_pos hten hscale) hone,
    div_le_div_iff₀ (mul_pos hone hscale) hten]
  constructor <;> linarith

/-- The roundings of a power of ten, where that of a reciprocal counts as well. -/
def powTenRoundings (e : Int) : Nat := powerRoundings e.natAbs + if e < 0 then 1 else 0

theorem powTenRoundings_le {e : Int} (hlow : -309 ≤ e) (hhigh : e ≤ 308) :
    powTenRoundings e ≤ 20 := by
  have hle := powerRoundings_le e.natAbs
  unfold powTenRoundings
  split <;> omega

/-- The reciprocal of `10 ^ 308` does not have all its bits, but more than are asked of it. -/
theorem within_powTen_least :
    ∃ m : Magnitude, powTen (-308) = .finite ⟨false, m⟩ ∧ Within (10 ^ 308)⁻¹ 20 m.value := by
  have hunits : unitsOfOne * (2 ^ 53 - 1) ^ 20 ≤
        (powTen (-308)).size.untopD 0 * 10 ^ 308 * (2 ^ 53) ^ 20 ∧
      (powTen (-308)).size.untopD 0 * 10 ^ 308 * (2 ^ 53 - 1) ^ 20 ≤
        unitsOfOne * (2 ^ 53) ^ 20 ∧
      (powTen (-308)).size ≠ ⊤ := by decide +kernel
  have hsign := isUnsigned_powTen (-308)
  match h : powTen (-308) with
  | .nan => exact absurd h (powTen_ne_nan _)
  | .infinite _ =>
      rw [h] at hunits
      exact absurd rfl hunits.2.2
  | .finite ⟨negative, m⟩ =>
      rw [h] at hunits hsign
      obtain rfl : negative = false := hsign
      exact ⟨m, rfl, within_of_units hunits.1 hunits.2.1⟩

theorem within_powTen_negSucc {n : Nat} (hn : n < 307) :
    ∃ m : Magnitude, powTen (Int.negSucc n) = .finite ⟨false, m⟩ ∧
      Within (10 ^ (n + 1))⁻¹ (powerRoundings (n + 1) + 1) m.value := by
  obtain ⟨one, hunits, hone⟩ := ofInt_one
  obtain ⟨m, hpower, hwithin⟩ := power_eq_finite (by omega : n + 1 ≤ 308)
  have hfew : powerRoundings (n + 1) ≤ 1000 := (powerRoundings_le _).trans (by omega)
  have hvalue : one.value = 1 := by
    rw [Magnitude.value, hunits]
    exact div_self unitsOfOne_cast_pos.ne'
  have hle : 1 ≤ m.value := by
    have hatLeast := atLeast_power (n + 1)
    rw [hpower] at hatLeast
    exact one_le_value hatLeast.2
  have hpos : 0 < m.value := zero_lt_one.trans_le hle
  have hten : (0 : ℚ) < 10 ^ (n + 1) := by positivity
  have hnormal : leastNormal ≤ 1 / m.value := by
    rw [le_div_iff₀ hpos]
    have hbound : m.value * (9 / 10) ≤ 10 ^ 307 :=
      (hwithin.nine_tenths_mul_le hfew hpos.le).trans
        (pow_le_pow_right₀ (by norm_num) (by omega))
    have hleast : 0 ≤ leastNormal := div_nonneg (by norm_num) unitsOfOne_cast_pos.le
    have hproduct := (mul_le_mul_of_nonneg_left hbound hleast).trans leastNormal_mul_le
    linarith
  have hlimit : 1 / m.value < finiteLimit * (9 / 10) := by
    have hone := (div_le_one hpos).2 hle
    linarith [ten_thousand_lt_finiteLimit]
  obtain ⟨r, hreciprocal, hwithin'⟩ :=
    @within_div ⟨false, one⟩ ⟨false, m⟩ hpos (hvalue ▸ hnormal) (hvalue ▸ hlimit)
  refine ⟨r, ?_, ?_⟩
  · rw [powTen_negSucc, hone, hpower]
    exact hreciprocal
  · rw [hvalue, one_div] at hwithin'
    exact (hwithin.inv hten hpos).trans hwithin'

theorem within_powTen {e : Int} (hlow : -308 ≤ e) (hhigh : e ≤ 308) :
    ∃ m : Magnitude, powTen e = .finite ⟨false, m⟩ ∧
      Within (10 ^ e) (powTenRoundings e) m.value := by
  cases e with
  | ofNat n =>
      have hn : (n : Int) ≤ 308 := hhigh
      obtain ⟨m, hpower, hwithin⟩ := power_eq_finite (by omega : n ≤ 308)
      refine ⟨m, (powTen_natCast n).trans hpower, ?_⟩
      rw [Int.ofNat_eq_natCast, zpow_natCast, powTenRoundings, if_neg (by omega),
        Int.natAbs_natCast]
      exact hwithin
  | negSucc n =>
      have hcount : powTenRoundings (Int.negSucc n) = powerRoundings (n + 1) + 1 := by
        rw [powTenRoundings, if_pos (Int.negSucc_lt_zero n), Int.natAbs_negSucc]
      rw [hcount, zpow_negSucc]
      rcases Nat.lt_or_ge n 307 with hlt | hge
      · exact within_powTen_negSucc hlt
      · obtain rfl : n = 307 := by omega
        exact within_powTen_least

/-- The roundings of a quotient by a power of ten, those of the power included. -/
def quotientRoundings (e : Int) : Nat := powTenRoundings e + 1

/-- A quotient by a power of ten of moderate size is exact up to the roundings of the power, of its
reciprocal and of the quotient. -/
theorem within_div_powTen (x : Finite) {e : Int} (hlow : -308 ≤ e) (hhigh : e ≤ 308)
    (hsmall : 1 / 100 ≤ x.magnitude.value / 10 ^ e) (hgreat : x.magnitude.value / 10 ^ e ≤ 1000) :
    ∃ m : Magnitude, (Binary64.finite x).div (powTen e) = .finite ⟨x.negative, m⟩ ∧
      Within (x.magnitude.value / 10 ^ e) (quotientRoundings e) m.value := by
  obtain ⟨p, hpower, hwithin⟩ := within_powTen hlow hhigh
  have hfew : powTenRoundings e ≤ 1000 := (powTenRoundings_le (by omega) hhigh).trans (by decide)
  have hten : (0 : ℚ) < 10 ^ e := zpow_pos (by norm_num) e
  have hpos : 0 < p.value :=
    (mul_pos hten (one_sub_roundoff_pow_pos _)).trans_le hwithin.1
  have hquotient : Within (x.magnitude.value / 10 ^ e) (powTenRoundings e)
      (x.magnitude.value / p.value) := by
    have hmul := (Within.refl x.magnitude.value).mul (hwithin.inv hten hpos)
      x.magnitude.value_nonneg (inv_nonneg.2 hten.le) x.magnitude.value_nonneg
      (inv_nonneg.2 hpos.le)
    rwa [Nat.zero_add, ← div_eq_mul_inv, ← div_eq_mul_inv] at hmul
  have hquotient' : 0 ≤ x.magnitude.value / p.value :=
    div_nonneg x.magnitude.value_nonneg hpos.le
  have hupper := hquotient.nine_tenths_mul_le hfew hquotient'
  have hlower := hquotient.symm.nine_tenths_mul_le hfew (by linarith)
  have hnormal : leastNormal ≤ x.magnitude.value / p.value := by
    linarith [leastNormal_le]
  have hlimit : x.magnitude.value / p.value < finiteLimit * (9 / 10) := by
    linarith [ten_thousand_lt_finiteLimit]
  obtain ⟨m, hdiv, hwithin'⟩ := @within_div x ⟨false, p⟩ hpos hnormal hlimit
  refine ⟨m, ?_, hquotient.trans hwithin'⟩
  rw [hpower, hdiv, Bool.bne_false]

/-- From `10 ^ -308` on a power is at least half of its exact value. -/
theorem half_le_powTen {e : Int} (hlow : -308 ≤ e) (hhigh : e ≤ 308) :
    ∃ m : Magnitude, powTen e = .finite ⟨false, m⟩ ∧ 10 ^ e / 2 ≤ m.value := by
  obtain ⟨m, hpower, hwithin⟩ := within_powTen hlow hhigh
  have hfew : powTenRoundings e ≤ 1000 := (powTenRoundings_le (by omega) hhigh).trans (by decide)
  have hten : (0 : ℚ) < 10 ^ e := zpow_pos (by norm_num) e
  have hbound := hwithin.symm.nine_tenths_mul_le hfew hten.le
  exact ⟨m, hpower, by linarith⟩

/-- A quotient far below the limit is finite. -/
theorem exists_div_eq_finite {x y : Finite} (hy : 0 < y.magnitude.value)
    (h : x.magnitude.value / y.magnitude.value ≤ ((2 ^ 1000 : Nat) : ℚ)) :
    ∃ z, (Binary64.finite x).div (.finite y) = .finite z := by
  have hone := unitsOfOne_cast_pos
  have hpos := Magnitude.units_pos hy
  have hpos' : (0 : ℚ) < y.magnitude.units := by exact_mod_cast hpos
  have hlimit : roundUnits (x.magnitude.units * unitsOfOne) y.magnitude.units < unitLimit := by
    apply roundUnits_lt_unitLimit hpos (by decide : 1000 < 1024)
    rw [Magnitude.value, Magnitude.value, div_div_div_cancel_right₀ hone.ne',
      div_le_iff₀ hpos'] at h
    have hnat : x.magnitude.units ≤ 2 ^ 1000 * y.magnitude.units := by exact_mod_cast h
    rw [Nat.mul_comm, Nat.mul_assoc]
    exact Nat.mul_le_mul_left _ hnat
  obtain ⟨m, -, hfinite⟩ := ofUnits_of_lt (x.negative != y.negative) hlimit
  exact ⟨_, (div_eq_ofUnits x hpos.ne').trans hfinite⟩

end Phrasebook.Binary64
