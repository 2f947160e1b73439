import Phrasebook.Proofs.Binary64.PowerOfTen

/-!
# Signs of rounded results

Rounding is symmetric, so a negated operand negates the result. What is not negative stays so when
it is multiplied or divided by a number without a minus sign. A zero may have one, but is not
negative.
-/

namespace Phrasebook.Binary64

attribute [local irreducible] unitsOfOne unitLimit

/-! ## Opposite numbers -/

theorem ofUnits_not (negative : Bool) (n d : Nat) :
    ofUnits (!negative) n d = (ofUnits negative n d).neg := by
  unfold ofUnits
  cases Magnitude.round? n d <;> rfl

theorem mul_neg_left (x y : Binary64) : x.neg.mul y = (x.mul y).neg := by
  match x, y with
  | .nan, _ => rfl
  | .infinite _, .nan => rfl
  | .finite _, .nan => rfl
  | .infinite s, .infinite t => simp [neg, Binary64.mul]
  | .infinite s, .finite y => cases hzero : y.magnitude.isZero <;> simp [neg, Binary64.mul, hzero]
  | .finite x, .infinite t => cases hzero : x.magnitude.isZero <;> simp [neg, Binary64.mul, hzero]
  | .finite x, .finite y =>
      show ofUnits ((!x.negative) != y.negative) _ _ = neg (ofUnits (x.negative != y.negative) _ _)
      rw [← ofUnits_not, Bool.not_bne]

theorem div_neg_left (x y : Binary64) : x.neg.div y = (x.div y).neg := by
  match x, y with
  | .nan, _ => rfl
  | .infinite _, .nan => rfl
  | .finite _, .nan => rfl
  | .infinite _, .infinite _ => rfl
  | .infinite s, .finite y => simp [neg, div]
  | .finite x, .infinite t => simp [neg, div]
  | .finite x, .finite y =>
      rw [neg, div, div]
      split
      · cases x.magnitude.isZero <;> simp [neg]
      · rw [← ofUnits_not, Bool.not_bne]

theorem ofInt_neg {i : Int} (hi : i ≠ 0) : ofInt (-i) = (ofInt i).neg := by
  have hsign : decide (-i < 0) = !decide (i < 0) := by
    rw [Bool.eq_iff_iff, decide_eq_true_iff, Bool.not_eq_true', decide_eq_false_iff_not]
    omega
  rw [ofInt, ofInt, ofRatio, ofRatio, hsign, Int.natAbs_neg]
  exact ofUnits_not _ _ _

@[simp] theorem isZero_neg (x : Binary64) : x.neg.isZero = x.isZero := by cases x <;> rfl

/-! ## Numbers that are not negative -/

theorem isNegative_finite {x : Finite} :
    (finite x).isNegative = false ↔ x.negative = false ∨ x.magnitude.isZero = true := by
  cases hsign : x.negative <;> simp [isNegative, hsign]

theorem IsUnsigned.isNegative {x : Binary64} (hx : x.IsUnsigned) : x.isNegative = false := by
  match x with
  | .nan => rfl
  | .infinite _ => exact hx
  | .finite _ => exact isNegative_finite.2 (.inl hx)

/-- A zero with a minus sign is not negative. -/
theorem isNegative_ofUnits {negative : Bool} {n : Nat} (h : negative = false ∨ n = 0) (d : Nat) :
    (ofUnits negative n d).isNegative = false := by
  rcases h with rfl | rfl
  · exact (isUnsigned_ofUnits n d).isNegative
  · have hround : roundUnits 0 d = 0 := by simp [roundUnits, roundHalfEven]
    have hlt : roundUnits 0 d < unitLimit := by
      rw [hround]
      exact unitLimit_pos
    obtain ⟨m, hunits, hfinite⟩ := ofUnits_of_lt negative hlt
    rw [hfinite, isNegative_finite]
    right
    rw [Magnitude.isZero, hunits, hround]
    rfl

theorem isNegative_mul {x y : Binary64} (hx : x.isNegative = false) (hy : y.IsUnsigned) :
    (x.mul y).isNegative = false := by
  match x, y with
  | .nan, _ => rfl
  | _, .nan => exact hy.elim
  | .infinite s, .infinite t =>
      obtain rfl : s = false := hx
      obtain rfl : t = false := hy
      rfl
  | .infinite s, .finite y =>
      obtain rfl : s = false := hx
      simp only [Binary64.mul, show y.negative = false from hy, bne_self_eq_false]
      split <;> rfl
  | .finite x, .infinite t =>
      obtain rfl : t = false := hy
      rcases isNegative_finite.1 hx with hsign | hzero
      · simp only [Binary64.mul, hsign, bne_self_eq_false]
        split <;> rfl
      · simp only [Binary64.mul, hzero, if_true]
        rfl
  | .finite x, .finite y =>
      rw [Binary64.mul, show y.negative = false from hy, Bool.bne_false]
      refine isNegative_ofUnits ((isNegative_finite.1 hx).imp_right fun hzero => ?_) _
      rw [beq_iff_eq.1 hzero, Nat.zero_mul]

theorem isNegative_div {x y : Binary64} (hx : x.isNegative = false) (hy : y.IsUnsigned) :
    (x.div y).isNegative = false := by
  match x, y with
  | .nan, _ => rfl
  | _, .nan => exact hy.elim
  | .infinite _, .infinite _ => rfl
  | .infinite s, .finite y =>
      obtain rfl : s = false := hx
      rw [div, show y.negative = false from hy]
      rfl
  | .finite x, .infinite t => exact isNegative_finite.2 (.inr rfl)
  | .finite x, .finite y =>
      rw [div, show y.negative = false from hy, Bool.bne_false]
      have hsign := isNegative_finite.1 hx
      split
      · split
        · rfl
        · next hzero => exact hsign.resolve_right hzero
      · refine isNegative_ofUnits (hsign.imp_right fun hzero => ?_) _
        rw [beq_iff_eq.1 hzero, Nat.zero_mul]

end Phrasebook.Binary64
