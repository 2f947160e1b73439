import Phrasebook.Number.Custom
import Phrasebook.Proofs.Decimal.Digits

/-!
# Digits of a rounded number

What the formats rely on: there is always an integer digit, and there are no more fraction digits
than were asked for.
-/

namespace Phrasebook.Number

/-- A number rounded to some decimals has that many fraction digits, unless it is not finite. -/
theorem length_fraction_fixed (n : Number) (decimals : Nat) :
    (n.fixed decimals).fraction.length = decimals ∨ (n.fixed decimals).fraction = [] := by
  match n with
  | integer i => exact .inl (by simp [fixed])
  | float .nan => exact .inr rfl
  | float (.infinite negative) => exact .inr rfl
  | float (.finite x) =>
      simp only [fixed, Binary64.Magnitude.fixed]
      split
      · exact .inr rfl
      · exact .inl (length_paddedDigits_eq (by omega) (Nat.mod_lt _ (Nat.pow_pos (by decide))))

theorem length_fraction_fixed_le (n : Number) (decimals : Nat) :
    (n.fixed decimals).fraction.length ≤ decimals := by
  rcases length_fraction_fixed n decimals with h | h <;> simp [h]

theorem whole_fixed_ne_nil (n : Number) (decimals : Nat) : (n.fixed decimals).whole ≠ [] := by
  match n with
  | integer i => exact digits_ne_nil _
  | float .nan => exact List.cons_ne_nil _ _
  | float (.infinite negative) => exact List.cons_ne_nil _ _
  | float (.finite x) => exact digits_ne_nil _

/-! ## Laying digits out -/

theorem trimFraction_of_length_le {minFraction : Nat} {fraction : Text}
    (h : fraction.length ≤ minFraction) : trimFraction minFraction fraction = fraction := by
  rw [trimFraction, List.take_of_length_le h, List.drop_of_length_le h]
  simp [Text.dropEndWhile]

theorem padWhole_one {whole : Text} (h : whole ≠ []) : padWhole 1 whole = whole := by
  unfold padWhole
  split
  · next hzero => simp [hzero]
  · exact leftpad_one_of_ne_nil h '0'

theorem padWhole_digits {places : Nat} (hplaces : 0 < places) (n : Nat) :
    padWhole places (digits n) = paddedDigits places n := by
  unfold padWhole paddedDigits
  split
  · next hzero =>
      obtain rfl := digits_eq_zero_iff.1 hzero
      obtain ⟨places, rfl⟩ := Nat.exists_eq_add_one_of_ne_zero (Nat.ne_of_gt hplaces)
      simp [digits, List.leftpad, List.replicate_succ']
  · rfl

end Phrasebook.Number
