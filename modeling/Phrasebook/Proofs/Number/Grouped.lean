import Phrasebook.Proofs.Format.Refusal
import Phrasebook.Proofs.Number.Reading

/-!
# Numbers with grouped digits

The formats `F` and `N` lay out the same digits. What `N` adds are the separators between the groups
of three integer digits.
-/

namespace Phrasebook.Number

variable {culture : Culture} {n : Number} {letter : Char} {precision : Text}

/-- The count of decimals that the precision of `F` and `N` asks for. -/
def decimalsOf (precision : Text) : Nat := if precision = [] then 2 else valueOf precision

theorem formatStandard_eq (h : valueOf precision ≤ maxPrecision) :
    formatStandard culture n letter precision =
      standard culture n letter (if precision = [] then none else some (valueOf precision)) := by
  unfold formatStandard precision?
  cases precision with
  | nil => rfl
  | cons c s => simp [h]

theorem formatStandard_of_lt (h : maxPrecision < valueOf precision) :
    formatStandard culture n letter precision = .error .precisionOutOfRange := by
  unfold formatStandard precision?
  cases precision with
  | nil => exact (Nat.not_lt_zero _ h).elim
  | cons c s => simp [Nat.not_le.2 h]

theorem format_of_standard (hn : n.IsFinite) (hletter : letter.isAlpha)
    (hdigits : ∀ c ∈ precision, c.isDigit) :
    format culture (letter :: precision) n = some (formatStandard culture n letter precision) := by
  have hstandard : standard? (letter :: precision) = some (letter, precision) :=
    standard?_eq_some_iff.2 ⟨rfl, hletter, hdigits⟩
  rw [hn.format_eq, formatFinite, hstandard]

theorem format_congr_of_not_isFinite (hn : ¬n.IsFinite) (culture : Culture) (p q : Text) :
    format culture p n = format culture q n := by
  match n with
  | integer i => exact (hn trivial).elim
  | float .nan => rfl
  | float (.infinite _) => rfl
  | float (.finite _) => exact (hn trivial).elim

theorem standard_fixed (hletter : letter.toUpper = 'F') (precision : Option Nat) :
    standard culture n letter precision =
      .ok (withSign (n.fixed (precision.getD 2)).negative (joinFraction culture
        (n.fixed (precision.getD 2)).whole (n.fixed (precision.getD 2)).fraction)) := by
  simp only [standard, hletter]

theorem standard_number (hletter : letter.toUpper = 'N') (precision : Option Nat) :
    standard culture n letter precision =
      .ok (withSign (n.fixed (precision.getD 2)).negative (joinFraction culture
        (group culture.groupSeparator (n.fixed (precision.getD 2)).whole)
        (n.fixed (precision.getD 2)).fraction)) := by
  simp only [standard, hletter, grouped]

theorem getD_precision (precision : Text) :
    (if precision = [] then none else some (valueOf precision)).getD 2 = decimalsOf precision := by
  unfold decimalsOf
  split <;> rfl

/-- Grouping cuts a row of digits into threes, counted from the right, with the separator between
them. A number is written by `N` as it is by `F`, but for its integer digits, which are grouped: the
sign, the digits and the fraction are the same, and so is everything where no digits are laid out.
-/
theorem format_number_eq_grouped_fixed {s precision : Text} (hs : s ≠ [])
    (hprecision : ∀ c ∈ precision, c.isDigit) (separator : Text) (culture : Culture) (n : Number) :
    (∃ first others, group separator s = Text.join separator (first :: others) ∧
      (first :: others).flatten = s ∧ 1 ≤ first.length ∧ first.length ≤ 3 ∧
      ∀ digits ∈ others, digits.length = 3) ∧
    ∀ fixedLetter ∈ ['F', 'f'], ∀ numberLetter ∈ ['N', 'n'],
      (¬n.IsFinite ∨ maxPrecision < valueOf precision →
        format culture (numberLetter :: precision) n =
          format culture (fixedLetter :: precision) n) ∧
      (n.IsFinite → valueOf precision ≤ maxPrecision →
        let f := n.fixed (decimalsOf precision)
        f.whole ≠ [] ∧ f.HasDigits ∧
        format culture (fixedLetter :: precision) n =
          some (.ok (withSign f.negative (joinFraction culture f.whole f.fraction))) ∧
        format culture (numberLetter :: precision) n =
          some (.ok (withSign f.negative (joinFraction culture
            (group culture.groupSeparator f.whole) f.fraction)))) := by
  refine ⟨?_, fun fixedLetter hfixed numberLetter hnumber => ⟨fun h => ?_, fun hn hle => ?_⟩⟩
  · obtain ⟨first, others, hgroups, hpos, hle, hothers⟩ := exists_thousands_eq hs
    refine ⟨first, others, ?_, ?_, hpos, hle, hothers⟩
    · rw [group_eq_join, hgroups]
    · rw [← hgroups, flatten_thousands]
  · by_cases hn : n.IsFinite
    · have hgreat : maxPrecision < valueOf precision := h.resolve_left (not_not.2 hn)
      have halpha : ∀ letter ∈ ['F', 'f'] ++ ['N', 'n'], letter.isAlpha := by simp
      rw [format_of_standard hn (halpha _ (List.mem_append_right _ hnumber)) hprecision,
        format_of_standard hn (halpha _ (List.mem_append_left _ hfixed)) hprecision,
        formatStandard_of_lt hgreat, formatStandard_of_lt hgreat]
    · exact format_congr_of_not_isFinite hn culture _ _
  · have hfixedLetter : ∀ letter ∈ ['F', 'f'], letter.isAlpha ∧ letter.toUpper = 'F' := by simp
    have hnumberLetter : ∀ letter ∈ ['N', 'n'], letter.isAlpha ∧ letter.toUpper = 'N' := by simp
    obtain ⟨hfixedAlpha, hfixedUpper⟩ := hfixedLetter fixedLetter hfixed
    obtain ⟨hnumberAlpha, hnumberUpper⟩ := hnumberLetter numberLetter hnumber
    refine ⟨whole_fixed_ne_nil n _, hasDigits_fixed_iff.2 hn, ?_, ?_⟩
    · rw [format_of_standard hn hfixedAlpha hprecision, formatStandard_eq hle,
        standard_fixed hfixedUpper, getD_precision]
    · rw [format_of_standard hn hnumberAlpha hprecision, formatStandard_eq hle,
        standard_number hnumberUpper, getD_precision]

/-- A negative integer of seven digits and one decimal. -/
theorem format_number_eq_grouped_fixed_negative :
    ("1234567" : Text) ≠ [] ∧ (∀ c ∈ ("1" : Text), c.isDigit) ∧
      (∃ first others, group "’" "1234567" = Text.join "’" (first :: others) ∧
        (first :: others).flatten = "1234567" ∧ 1 ≤ first.length ∧ first.length ≤ 3 ∧
        ∀ digits ∈ others, digits.length = 3) ∧
      (integer (-1234567)).IsFinite ∧ valueOf "1" ≤ maxPrecision ∧
      format .deCH "F1" (integer (-1234567)) = some (.ok "-1234567.0") ∧
      format .deCH "N1" (integer (-1234567)) = some (.ok "-1’234’567.0") := by
  have hs : ("1234567" : Text) ≠ [] := by decide
  have hprecision : ∀ c ∈ ("1" : Text), c.isDigit := by simp
  have hle : valueOf "1" ≤ maxPrecision := by decide
  have hlaw := format_number_eq_grouped_fixed hs hprecision "’" .deCH (integer (-1234567))
  have hformats := (hlaw.2 'F' (by decide) 'N' (by decide)).2 trivial hle
  refine ⟨hs, hprecision, hlaw.1, trivial, hle, ?_, ?_⟩
  · exact hformats.2.2.1.trans (by decide)
  · exact hformats.2.2.2.trans (by decide)

end Phrasebook.Number
