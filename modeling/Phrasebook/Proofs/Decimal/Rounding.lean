import Mathlib.Algebra.Order.Field.Basic
import Mathlib.Algebra.Order.Field.Rat
import Mathlib.Tactic.FieldSimp
import Mathlib.Tactic.Linarith
import Mathlib.Tactic.Ring
import Phrasebook.Binary64.Basic

/-!
# Laws of rounding

Rounding a quotient to the nearest integer errs by half at most, depends on the quotient alone and
is monotone, ties included.
-/

namespace Phrasebook

/-- Away from a tie, the nearest integer is the only one that is nearer than half. -/
theorem roundHalfEven_eq {n d k : Nat} (hlow : 2 * (k * d) < 2 * n + d)
    (hhigh : 2 * n < 2 * (k * d) + d) : roundHalfEven n d = k := by
  have hd : 0 < d := by omega
  have hsplit := Nat.div_add_mod n d
  have hmod := Nat.mod_lt n hd
  rw [Nat.mul_comm] at hsplit
  unfold roundHalfEven
  rcases Nat.lt_trichotomy (n / d) k with hlt | rfl | hgt
  · have hle : (n / d + 1) * d ≤ k * d := Nat.mul_le_mul_right d hlt
    have hnext : k * d < (n / d + 2) * d := by
      rw [Nat.add_mul] at hle ⊢
      omega
    have hk : k = n / d + 1 := by
      have := Nat.lt_of_mul_lt_mul_right hnext
      omega
    rw [hk, Nat.add_mul] at hlow
    rw [if_pos (by omega), hk]
  · rw [if_neg (by omega)]
  · have hle : (k + 1) * d ≤ n / d * d := Nat.mul_le_mul_right d hgt
    rw [Nat.add_mul] at hle
    omega

/-- A tie goes to the even neighbour. -/
theorem roundHalfEven_tie {n d k : Nat} (hd : 0 < d) (h : 2 * n = (2 * k + 1) * d) :
    roundHalfEven n d = if k % 2 = 1 then k + 1 else k := by
  have hdiv : n / d = k := by
    rw [Nat.div_eq_iff hd]
    rw [Nat.add_mul, Nat.mul_assoc] at h
    omega
  have hmod : 2 * (n % d) = d := by
    have hsplit := Nat.div_add_mod n d
    rw [hdiv] at hsplit
    rw [Nat.add_mul, Nat.mul_assoc, Nat.mul_comm k d] at h
    omega
  unfold roundHalfEven
  rw [hdiv, hmod]
  simp

theorem two_mul_le_roundHalfEven_mul (n : Nat) {d : Nat} (hd : 0 < d) :
    2 * n ≤ 2 * (roundHalfEven n d * d) + d := by
  have hsplit := Nat.div_add_mod n d
  have hmod := Nat.mod_lt n hd
  rw [Nat.mul_comm] at hsplit
  unfold roundHalfEven
  split
  · rw [Nat.add_mul]
    omega
  · omega

theorem two_mul_roundHalfEven_mul_le (n d : Nat) :
    2 * (roundHalfEven n d * d) ≤ 2 * n + d := by
  have hsplit := Nat.div_add_mod n d
  rw [Nat.mul_comm] at hsplit
  unfold roundHalfEven
  split
  · rw [Nat.add_mul]
    omega
  · omega

theorem roundHalfEven_mono {n d m e : Nat} (hd : 0 < d) (he : 0 < e) (h : n * e ≤ m * d) :
    roundHalfEven n d ≤ roundHalfEven m e := by
  by_contra hlt
  rw [Nat.not_le] at hlt
  obtain ⟨k, hk⟩ : ∃ k, roundHalfEven m e = k := ⟨_, rfl⟩
  have hupper := two_mul_le_roundHalfEven_mul m he
  have hlower := two_mul_roundHalfEven_mul_le n d
  have hstep : (k + 1) * d ≤ roundHalfEven n d * d := by
    rw [hk] at hlt
    exact Nat.mul_le_mul_right d hlt
  rw [hk] at hupper
  have hn : (2 * k + 1) * d ≤ 2 * n := by
    rw [Nat.add_mul] at hstep
    rw [Nat.add_mul, Nat.mul_assoc]
    omega
  have hm : 2 * m ≤ (2 * k + 1) * e := by
    rw [Nat.add_mul, Nat.mul_assoc]
    omega
  have hcross : (2 * k + 1) * d * e = 2 * n * e ∧ 2 * m * d = (2 * k + 1) * e * d := by
    have h₁ := Nat.mul_le_mul_right e hn
    have h₂ := Nat.mul_le_mul_right d hm
    have h₃ : 2 * n * e ≤ 2 * m * d := by
      rw [Nat.mul_assoc, Nat.mul_assoc]
      exact Nat.mul_le_mul_left 2 h
    have h₄ : (2 * k + 1) * d * e = (2 * k + 1) * e * d := Nat.mul_right_comm _ _ _
    omega
  have hntie := roundHalfEven_tie hd (Nat.eq_of_mul_eq_mul_right he hcross.1).symm
  have hmtie := roundHalfEven_tie he (Nat.eq_of_mul_eq_mul_right hd hcross.2)
  omega

theorem roundHalfEven_mul_right (n d : Nat) {c : Nat} (hd : 0 < d) (hc : 0 < c) :
    roundHalfEven (n * c) (d * c) = roundHalfEven n d := by
  have hcross : n * c * d = n * (d * c) := by rw [Nat.mul_assoc, Nat.mul_comm c]
  have hpos := Nat.mul_pos hd hc
  exact Nat.le_antisymm (roundHalfEven_mono hpos hd hcross.le)
    (roundHalfEven_mono hd hpos hcross.ge)

theorem roundHalfEven_mul_self (k : Nat) {d : Nat} (hd : 0 < d) : roundHalfEven (k * d) d = k :=
  roundHalfEven_eq (by omega) (by omega)

theorem roundHalfEven_eq_zero {n d : Nat} (h : 2 * n < d) : roundHalfEven n d = 0 :=
  roundHalfEven_eq (by omega) (by omega)

/-- Two quotients that stand in the same way to the ties around the integer nearest to one of them
have the same nearest integer. -/
theorem roundHalfEven_congr {n d m e : Nat} (hd : 0 < d) (he : 0 < e)
    (h : ∀ k, k = roundHalfEven m e ∨ k + 1 = roundHalfEven m e →
      compare (2 * n) ((2 * k + 1) * d) = compare (2 * m) ((2 * k + 1) * e)) :
    roundHalfEven n d = roundHalfEven m e := by
  obtain ⟨r, hr⟩ : ∃ r, roundHalfEven m e = r := ⟨_, rfl⟩
  rw [hr] at h
  have hodd : ∀ k c : Nat, (2 * k + 1) * c = 2 * (k * c) + c := fun k c => by ring
  have htie : ∀ k, k = r ∨ k + 1 = r → 2 * n = (2 * k + 1) * d →
      roundHalfEven n d = roundHalfEven m e := by
    intro k hk hn
    have hm := h k hk
    rw [Nat.compare_eq_eq.2 hn, eq_comm, Nat.compare_eq_eq] at hm
    rw [roundHalfEven_tie hd hn, roundHalfEven_tie he hm]
  have hhigh : ¬(2 * r + 1) * d < 2 * n := by
    rw [← Nat.compare_eq_gt, h r (.inl rfl), Nat.compare_eq_gt, hodd]
    have hle := two_mul_le_roundHalfEven_mul m he
    rw [hr] at hle
    omega
  have hlow : ∀ k, k + 1 = r → ¬2 * n < (2 * k + 1) * d := by
    rintro k rfl
    rw [← Nat.compare_eq_lt, h k (.inr rfl), Nat.compare_eq_lt, hodd]
    have hle := two_mul_roundHalfEven_mul_le m e
    rw [hr, Nat.add_mul] at hle
    omega
  by_cases heq : 2 * n = (2 * r + 1) * d
  · exact htie r (.inl rfl) heq
  by_cases heq' : ∃ k, k + 1 = r ∧ 2 * n = (2 * k + 1) * d
  · obtain ⟨k, hk, hn⟩ := heq'
    exact htie k (.inr hk) hn
  rw [hr]
  rw [hodd] at hhigh heq
  refine roundHalfEven_eq ?_ (by omega)
  cases r with
  | zero => omega
  | succ k =>
      have hn := hlow k rfl
      have hne : 2 * n ≠ (2 * k + 1) * d := fun hn => heq' ⟨k, rfl, hn⟩
      rw [hodd] at hn hne
      rw [Nat.add_mul]
      omega

/-! ## As rational numbers -/

theorem abs_roundHalfEven_sub_le (n : Nat) {d : Nat} (hd : 0 < d) :
    |(roundHalfEven n d : ℚ) - n / d| ≤ 1 / 2 := by
  have hpos : (0 : ℚ) < d := by exact_mod_cast hd
  have hupper : (2 : ℚ) * n ≤ 2 * (roundHalfEven n d * d) + d := by
    exact_mod_cast two_mul_le_roundHalfEven_mul n hd
  have hlower : (2 : ℚ) * (roundHalfEven n d * d) ≤ 2 * n + d := by
    exact_mod_cast two_mul_roundHalfEven_mul_le n d
  have hquotient : (n : ℚ) / d * d = n := div_mul_cancel₀ _ hpos.ne'
  rw [abs_le]
  constructor
  · refine le_of_mul_le_mul_right ?_ hpos
    linarith
  · refine le_of_mul_le_mul_right ?_ hpos
    linarith

theorem roundHalfEven_eq_of_abs_lt {n d k : Nat} (hd : 0 < d) (h : |(n : ℚ) / d - k| < 1 / 2) :
    roundHalfEven n d = k := by
  have hpos : (0 : ℚ) < d := by exact_mod_cast hd
  obtain ⟨hlow, hhigh⟩ := abs_lt.1 h
  have hquotient : (n : ℚ) / d * d = n := div_mul_cancel₀ _ hpos.ne'
  have hlow' := mul_lt_mul_of_pos_right hlow hpos
  have hhigh' := mul_lt_mul_of_pos_right hhigh hpos
  rw [sub_mul, hquotient] at hlow' hhigh'
  apply roundHalfEven_eq
  · have hcast : (2 : ℚ) * (k * d) < 2 * n + d := by linarith
    exact_mod_cast hcast
  · have hcast : (2 : ℚ) * n < 2 * (k * d) + d := by linarith
    exact_mod_cast hcast

end Phrasebook
