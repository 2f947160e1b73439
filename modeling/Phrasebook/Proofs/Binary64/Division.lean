import Phrasebook.Proofs.Binary64.Integer

/-!
# Division by a thousand

A quotient by a thousand is rounded with an error of less than the distance of the dividend from any
other number that a significand holds. So a rounded quotient is less than, equal to or greater than
a number if the dividend is so to its thousandfold, as long as a significand holds both. This
carries over to any count of divisions one after another: each of them is rounded, but no tie is
crossed.
-/

namespace Phrasebook.Binary64

attribute [local irreducible] ofUnits unitsOfOne unitLimit

/-! ## One division -/

theorem two_mul_le_roundUnits (n : Nat) {d : Nat} (hd : 0 < d) :
    2 * n ≤ 2 * (d * roundUnits n d) + d * spacing (n / d) := by
  rw [roundUnits, Nat.mul_left_comm d]
  exact two_mul_le_roundHalfEven_mul n (Nat.mul_pos hd (spacing_pos (n / d)))

theorem two_mul_roundUnits_le (n d : Nat) :
    2 * (d * roundUnits n d) ≤ 2 * n + d * spacing (n / d) := by
  rw [roundUnits, Nat.mul_left_comm d]
  exact two_mul_roundHalfEven_mul_le n (d * spacing (n / d))

/-- Above the tiny numbers the spacing grows with the numbers. -/
theorem spacing_mul_two_pow_le {a b k : Nat} (ha : 2 ^ 52 ≤ a) (hab : a * 2 ^ k ≤ b) :
    spacing a * 2 ^ k ≤ spacing b := by
  have hne : a ≠ 0 := by omega
  have hpos : 0 < a * 2 ^ k := Nat.mul_pos (by omega) (Nat.two_pow_pos k)
  have hlog : 52 ≤ a.log2 := (Nat.le_log2 hne).2 ha
  have hlog' : a.log2 + k ≤ b.log2 := by
    rw [← log2_mul_two_pow hne, Nat.le_log2 (by omega)]
    exact (Nat.log2_self_le hpos.ne').trans hab
  rw [spacing, spacing, ← Nat.pow_add, spareBits, spareBits]
  exact Nat.pow_le_pow_right (by decide) (by omega)

/-- What fits a significand is a multiple of the spacing of all that is less. -/
theorem spacing_dvd_of_le {a b : Nat} (ha : a ≠ 0) (hb : 2 ^ spareBits b ∣ b) (hab : a ≤ b) :
    spacing a ∣ b := by
  have hlog : a.log2 ≤ b.log2 := by
    rw [Nat.le_log2 (by omega)]
    exact (Nat.log2_self_le ha).trans hab
  refine Nat.dvd_trans (Nat.pow_dvd_pow 2 ?_) hb
  unfold spareBits
  omega

theorem add_spacing_le {a b : Nat} (ha : 2 ^ spareBits a ∣ a) (ha' : a ≠ 0)
    (hb : 2 ^ spareBits b ∣ b) (hab : a < b) : a + spacing a ≤ b := by
  have hdvd : spacing a ∣ b - a := Nat.dvd_sub (spacing_dvd_of_le ha' hb hab.le) ha
  have hle := Nat.le_of_dvd (by omega) hdvd
  omega

/-- Rounding does not reach the power of two beyond the next one. -/
theorem two_pow_le_of_le_roundUnits {n d j : Nat} (hd : 0 < d) (hj : 0 < j)
    (h : 2 ^ (j + 1) ≤ roundUnits n d) : 2 ^ j ≤ n / d := by
  have hle := (Nat.pow_le_pow_iff_right (by decide : 1 < 2)).1
    (h.trans (roundUnits_le_two_pow n hd))
  have hlog : j ≤ (n / d).log2 := by omega
  have hne : n / d ≠ 0 := by
    intro hzero
    rw [hzero, Nat.log2_zero] at hlog
    omega
  exact (Nat.le_log2 hne).1 hlog

/-- What is rounded to a number has no greater spacing. -/
theorem spacing_div_le (n d : Nat) : spacing (n / d) ≤ spacing (roundUnits n d) := by
  rcases Nat.eq_zero_or_pos (n / d) with hzero | hpos
  · have hone : spacing 0 = 1 := rfl
    rw [hzero, hone]
    exact spacing_pos _
  · have hle := two_pow_le_roundUnits (Nat.log2_self_le hpos.ne')
    have hne : roundUnits n d ≠ 0 := by
      have := Nat.two_pow_pos (n / d).log2
      omega
    have hlog : (n / d).log2 ≤ (roundUnits n d).log2 := (Nat.le_log2 hne).2 hle
    unfold spacing spareBits
    exact Nat.pow_le_pow_right (by decide) (by omega)

theorem compare_eq_of_lt_of_gt {a b c d : Nat} (hlt : a < b → c < d) (heq : a = b → c = d)
    (hgt : b < a → d < c) : compare c d = compare a b := by
  rcases Nat.lt_trichotomy a b with h | h | h
  · rw [Nat.compare_eq_lt.2 h, Nat.compare_eq_lt.2 (hlt h)]
  · rw [Nat.compare_eq_eq.2 h, Nat.compare_eq_eq.2 (heq h)]
  · rw [Nat.compare_eq_gt.2 h, Nat.compare_eq_gt.2 (hgt h)]

/-- A rounded quotient by a thousand stands to a number as the dividend to its thousandfold. -/
theorem compare_roundUnits_thousand {u t : Nat} (hu : 2 ^ spareBits u ∣ u)
    (ht : 2 ^ spareBits t ∣ t) (ht' : 2 ^ spareBits (t * 1000) ∣ t * 1000) (hlarge : 2 ^ 53 ≤ t) :
    compare (roundUnits u 1000) t = compare u (t * 1000) := by
  have hself : roundUnits (t * 1000) 1000 = t := by
    have hround := roundUnits_one_of_dvd ht
    have hmono :=
      roundUnits_mono (n := t * 1000) (d := 1000) (m := t) (e := 1) (by decide) (by decide)
      (by omega)
    have hmono' := roundUnits_mono (n := t) (d := 1) (m := t * 1000) (e := 1000) (by decide)
      (by decide) (by omega)
    omega
  apply compare_eq_of_lt_of_gt
  · intro hlt
    have hle : roundUnits u 1000 ≤ t := by
      rw [← hself]
      exact roundUnits_mono (by decide) (by decide) (Nat.mul_le_mul_right _ hlt.le)
    refine Nat.lt_of_le_of_ne hle fun heq => ?_
    have herror := two_mul_roundUnits_le u 1000
    have hquotient : 2 ^ 52 ≤ u / 1000 :=
      two_pow_le_of_le_roundUnits (by decide) (by decide) (heq ▸ hlarge)
    have hspacing := spacing_mul_two_pow_le (b := u) (k := 9) hquotient (by omega)
    have hgap := add_spacing_le hu (by omega) ht' hlt
    omega
  · rintro rfl
    exact hself
  · intro hgt
    have hge : t ≤ roundUnits u 1000 := by
      rw [← hself]
      exact roundUnits_mono (by decide) (by decide) (Nat.mul_le_mul_right _ hgt.le)
    refine Nat.lt_of_le_of_ne hge fun heq => ?_
    have herror := two_mul_le_roundUnits u (by decide : 0 < 1000)
    have hgap := add_spacing_le ht' (by omega) hu hgt
    have hspacing := spacing_mul_two_pow_le (a := t) (b := t * 1000) (k := 9) (by omega)
      (Nat.mul_le_mul_left t (by decide))
    have hquotient : spacing (u / 1000) ≤ spacing t := by
      rw [heq]
      exact spacing_div_le u 1000
    omega

/-! ## Divisions one after another -/

/-- The units that are left after divisions by a thousand, each of them rounded. -/
def divided (count units : Nat) : Nat := Nat.repeat (fun units => roundUnits units 1000) count units

theorem divided_succ (count units : Nat) :
    divided (count + 1) units = roundUnits (divided count units) 1000 := rfl

theorem spare_dvd_divided {units : Nat} (hunits : 2 ^ spareBits units ∣ units) (count : Nat) :
    2 ^ spareBits (divided count units) ∣ divided count units := by
  cases count with
  | zero => exact hunits
  | succ count => exact spare_dvd_roundUnits _ _

/-- The last division compares with the number, the ones before it with its thousandfold. -/
theorem compare_divided {units : Nat} (hunits : 2 ^ spareBits units ∣ units) {count t : Nat}
    (hlarge : 2 ^ 53 ≤ t)
    (ht : ∀ j ≤ count, 2 ^ spareBits (t * 1000 ^ j) ∣ t * 1000 ^ j) :
    compare (divided count units) t = compare units (t * 1000 ^ count) := by
  induction count generalizing t with
  | zero => rw [Nat.pow_zero, Nat.mul_one, divided, Nat.repeat]
  | succ count ih =>
      have hself := ht 0 (Nat.zero_le _)
      have hnext := ht 1 (by omega)
      rw [Nat.pow_zero, Nat.mul_one] at hself
      rw [Nat.pow_one] at hnext
      have hrest : ∀ j ≤ count, 2 ^ spareBits (t * 1000 * 1000 ^ j) ∣ t * 1000 * 1000 ^ j := by
        intro j hj
        rw [Nat.mul_assoc, ← Nat.pow_succ']
        exact ht (j + 1) (by omega)
      rw [divided_succ, compare_roundUnits_thousand (spare_dvd_divided hunits count)
        hself hnext hlarge,
        ih (by omega) hrest, Nat.mul_assoc, ← Nat.pow_succ']

theorem roundUnits_thousand_le {units : Nat} (hunits : 2 ^ spareBits units ∣ units) :
    roundUnits units 1000 ≤ units := by
  have hself := roundUnits_one_of_dvd hunits
  have hmono := roundUnits_mono (n := units) (d := 1000) (m := units) (e := 1) (by decide)
    (by decide) (by omega)
  omega

theorem divided_anti {units : Nat} (hunits : 2 ^ spareBits units ∣ units)
    {j k : Nat} (hjk : j ≤ k) :
    divided k units ≤ divided j units := by
  induction k, hjk using Nat.le_induction with
  | base => exact le_rfl
  | succ k _ ih => exact (roundUnits_thousand_le (spare_dvd_divided hunits k)).trans ih

/-! ## Ties -/

theorem thousand_pow (count : Nat) : 1000 ^ count = 125 ^ count * 2 ^ (3 * count) := by
  rw [Nat.pow_mul, ← Nat.mul_pow]

theorem compare_mul_left_of_pos {c : Nat} (hc : 0 < c) (a b : Nat) :
    compare (c * a) (c * b) = compare a b :=
  compare_eq_of_lt_of_gt (fun h => Nat.mul_lt_mul_of_pos_left h hc) (fun h => congrArg (c * ·) h)
    (fun h => Nat.mul_lt_mul_of_pos_left h hc)

/-- A significand holds a number and its thousandfolds up to the last one that it holds. -/
theorem spare_dvd_mul_thousand_pow {m count : Nat} (h : m * 125 ^ count ≤ 2 ^ 53)
    (e : Nat) {j : Nat}
    (hj : j ≤ count) : 2 ^ spareBits (m * 2 ^ e * 1000 ^ j) ∣ m * 2 ^ e * 1000 ^ j := by
  have hthousand : m * 2 ^ e * 1000 ^ j = m * 125 ^ j * 2 ^ (e + 3 * j) := by
    rw [thousand_pow, Nat.pow_add]
    ring
  rw [hthousand]
  apply spare_dvd_of_le
  exact (Nat.mul_le_mul_left _ (Nat.pow_le_pow_right (by decide) hj)).trans h

theorem unitsOfOne_eq_two_mul : ∃ e, 53 ≤ e ∧ unitsOfOne = 2 * 2 ^ e := by
  have hhalf : ∀ j, 53 < j → ∃ e, 53 ≤ e ∧ 2 ^ j = 2 * 2 ^ e := by
    intro j hj
    obtain ⟨e, rfl⟩ := Nat.exists_eq_add_one_of_ne_zero (by omega : j ≠ 0)
    exact ⟨e, by omega, Nat.pow_succ'⟩
  unfold unitsOfOne
  exact hhalf 1074 (by decide)

/-- The divisions cross no tie that a significand holds with all its thousandfolds. -/
theorem compare_divided_tie {n : Nat} (hn : 2 ^ spareBits (n * unitsOfOne) ∣ n * unitsOfOne)
    {k count : Nat} (h : (2 * k + 1) * 125 ^ count ≤ 2 ^ 53) :
    compare (2 * divided count (n * unitsOfOne)) ((2 * k + 1) * unitsOfOne) =
      compare (2 * n) ((2 * k + 1) * 1000 ^ count) := by
  obtain ⟨e, he, hone⟩ := unitsOfOne_eq_two_mul
  have hlarge : 2 ^ 53 ≤ (2 * k + 1) * 2 ^ e :=
    (Nat.pow_le_pow_right (by decide) he).trans (Nat.le_mul_of_pos_left _ (Nat.succ_pos _))
  have hdivided := compare_divided hn hlarge fun j hj => spare_dvd_mul_thousand_pow h e hj
  have htie : (2 * k + 1) * unitsOfOne = 2 * ((2 * k + 1) * 2 ^ e) := by
    rw [hone]
    ring
  have hunits : n * unitsOfOne = 2 ^ e * (2 * n) := by
    rw [hone]
    ring
  have hproduct : (2 * k + 1) * 2 ^ e * 1000 ^ count = 2 ^ e * ((2 * k + 1) * 1000 ^ count) := by
    ring
  rw [htie, compare_mul_left_of_pos Nat.two_pos, hdivided, hunits, hproduct,
    compare_mul_left_of_pos (Nat.two_pow_pos e)]

/-- As long as a significand holds the ties next to the result, dividing again and again gives the
integer nearest to the quotient. -/
theorem roundHalfEven_divided {n count : Nat}
    (hn : 2 ^ spareBits (n * unitsOfOne) ∣ n * unitsOfOne)
    (hrange : n + 1000 ^ count ≤ 2 ^ (52 + 3 * count)) :
    roundHalfEven (divided count (n * unitsOfOne)) unitsOfOne = roundHalfEven n (1000 ^ count) := by
  have hpos : 0 < 1000 ^ count := Nat.pow_pos (by decide)
  apply roundHalfEven_congr unitsOfOne_pos hpos
  intro k hk
  apply compare_divided_tie hn
  have hle := two_mul_roundHalfEven_mul_le n (1000 ^ count)
  have hk' : k * 1000 ^ count ≤ roundHalfEven n (1000 ^ count) * 1000 ^ count :=
    Nat.mul_le_mul_right _ (by omega)
  refine Nat.le_of_mul_le_mul_right ?_ (Nat.two_pow_pos (3 * count))
  calc
    (2 * k + 1) * 125 ^ count * 2 ^ (3 * count) = 2 * (k * 1000 ^ count) + 1000 ^ count := by
      rw [thousand_pow]
      ring
    _ ≤ 2 * (n + 1000 ^ count) := by omega
    _ ≤ 2 * 2 ^ (52 + 3 * count) := Nat.mul_le_mul_left 2 hrange
    _ = 2 ^ 53 * 2 ^ (3 * count) := by
      rw [← Nat.pow_succ', ← Nat.pow_add]
      congr 1
      omega

/-- From the seventh division on, nothing is left of an integer of 64 bits. -/
theorem roundHalfEven_divided_of_le {n count : Nat}
    (hn : 2 ^ spareBits (n * unitsOfOne) ∣ n * unitsOfOne) (hsmall : n ≤ 2 ^ 64)
    (hcount : 7 ≤ count) :
    roundHalfEven (divided count (n * unitsOfOne)) unitsOfOne = roundHalfEven n (1000 ^ count) := by
  have hpow : 1000 ^ 7 ≤ 1000 ^ count := Nat.pow_le_pow_right (by decide) hcount
  have hzero : 2 * n < 1000 ^ count := by omega
  have hseven : (2 * 0 + 1) * 125 ^ 7 ≤ 2 ^ 53 := by decide
  have htie := compare_divided_tie hn hseven
  rw [Nat.mul_zero, Nat.zero_add, Nat.one_mul, Nat.one_mul,
    Nat.compare_eq_lt.2 (by omega : 2 * n < 1000 ^ 7), Nat.compare_eq_lt] at htie
  have hanti := divided_anti hn hcount
  rw [roundHalfEven_eq_zero hzero, roundHalfEven_eq_zero (by omega)]

end Phrasebook.Binary64
