import Phrasebook.Culture.Samples
import Phrasebook.Proofs.Number.Reading

/-!
# Integers that are read back

The formats that take an integer as it is write its digits out, so reading gives the integer again:
exactly, for every integer of 64 bits. Hexadecimal digits give it modulo `2 ^ 64`.
-/

namespace Phrasebook

/-! ## Hexadecimal digits -/

namespace Text

theorem digitIn?_digitChar : ∀ k < 16,
    digitIn? 16 (Nat.digitChar k) = some k ∧ digitIn? 16 (Nat.digitChar k).toUpper = some k := by
  decide

section

variable {f : Char → Char} (hf : ∀ k < 16, digitIn? 16 (f (Nat.digitChar k)) = some k)

include hf

/-- The digits of the quotient are read first, the remainder is the last digit. -/
theorem foldlM_toDigits (n : Nat) :
    ((Nat.toDigits 16 n).map f).foldlM (fun n c => (digitIn? 16 c).map (16 * n + ·)) 0 =
      some n := by
  induction n using Nat.strongRecOn with
  | ind n ih =>
      rcases Nat.lt_or_ge n 16 with hlt | hge
      · simp [Nat.toDigits_of_lt_base hlt, hf n hlt]
      · have hquotient := ih (n / 16) (by omega)
        have hlast := hf (n % 16) (Nat.mod_lt n (by decide))
        rw [Nat.toDigits_of_base_le (by decide) hge, List.map_append, List.foldlM_append, hquotient]
        simp [hlast, Nat.div_add_mod]

theorem foldlM_replicate_zero (count : Nat) :
    ((List.replicate count '0').map f).foldlM (fun n c => (digitIn? 16 c).map (16 * n + ·)) 0 =
      some 0 := by
  have hzero : digitIn? 16 (f '0') = some 0 := hf 0 (by decide)
  rw [List.map_replicate]
  induction count with
  | zero => rfl
  | succ count ih =>
      rw [List.replicate_succ, List.foldlM_cons, hzero]
      exact ih

theorem natural?_leftpad (n width : Nat) :
    natural? 16 (((Nat.toDigits 16 n).leftpad width '0').map f) = some n := by
  have hne : (((Nat.toDigits 16 n).leftpad width '0').map f).isEmpty = false := by
    simp [List.leftpad]
  rw [natural?, hne, if_neg Bool.false_ne_true, List.leftpad, List.map_append, List.foldlM_append,
    foldlM_replicate_zero hf]
  exact foldlM_toDigits hf n

end

end Text

namespace Number

theorem natural?_hexadecimal {i : Int} (hi : i < 2 ^ 64) (width : Nat) (upper : Bool) :
    Text.natural? 16 (hexadecimal i width upper) = some (i % 2 ^ 64).toNat := by
  have hbits : (if i < 0 then (i % 2 ^ 64).toNat else i.toNat) = (i % 2 ^ 64).toNat := by
    split
    · rfl
    · rw [Int.emod_eq_of_lt (by omega) hi]
  unfold hexadecimal
  rw [hbits]
  cases upper with
  | true => exact Text.natural?_leftpad (fun k hk => (Text.digitIn?_digitChar k hk).2) _ width
  | false =>
      have hlower := Text.natural?_leftpad (f := id)
        (fun k hk => (Text.digitIn?_digitChar k hk).1) (i % 2 ^ 64).toNat width
      rwa [List.map_id] at hlower

theorem le_length_hexadecimal (i : Int) (width : Nat) (upper : Bool) :
    width ≤ (hexadecimal i width upper).length := by
  have hpadded : ∀ s : Text, width ≤ (s.leftpad width '0').length := by
    intro s
    rw [List.length_leftpad]
    exact Nat.le_max_left _ _
  cases upper with
  | true => exact (hpadded _).trans_eq (List.length_map _).symm
  | false => exact hpadded _

/-! ## Digits of integers -/

/-- The digits of an integer, filled up with zeros in front, and as many zeros behind. -/
def integerDigits (i : Int) (width decimals : Nat) : Fixed :=
  ⟨decide (i < 0), paddedDigits width i.natAbs, List.replicate decimals '0'⟩

theorem fixed_integer (i : Int) (decimals : Nat) :
    (integer i).fixed decimals = integerDigits i 0 decimals := by
  simp [fixed, integerDigits, paddedDigits, List.leftpad]

theorem value_integerDigits (i : Int) (width decimals : Nat) :
    (integerDigits i width decimals).value = i := by
  have hpower : (10 : ℚ) ^ decimals ≠ 0 := by positivity
  have hdigits : (valueOf (paddedDigits width i.natAbs ++ List.replicate decimals '0') : ℚ) =
      10 ^ decimals * i.natAbs := by
    rw [valueOf_append, valueOf_paddedDigits, valueOf_replicate_zero, List.length_replicate]
    push_cast
    ring
  simp only [Fixed.value, integerDigits]
  rw [hdigits, List.length_replicate, mul_div_cancel_left₀ _ hpower, Nat.cast_natAbs, Int.cast_abs]
  rcases lt_or_ge i 0 with hneg | hpos
  · have hcast : (i : ℚ) < 0 := by exact_mod_cast hneg
    simp [hneg, abs_of_neg hcast]
  · have hcast : (0 : ℚ) ≤ i := by exact_mod_cast hpos
    simp [not_lt.2 hpos, abs_of_nonneg hcast]

theorem hasDigits_integerDigits (i : Int) (width decimals : Nat) :
    (integerDigits i width decimals).HasDigits := by
  intro c hc
  rcases List.mem_append.1 hc with hc | hc
  · exact isDigit_of_mem_paddedDigits hc
  · rw [List.eq_of_mem_replicate hc]
    rfl

theorem whole_integerDigits_ne_nil (i : Int) (width decimals : Nat) :
    (integerDigits i width decimals).whole ≠ [] := by
  simp [integerDigits, paddedDigits, List.leftpad, digits_ne_nil]

theorem le_length_whole_integerDigits (i : Int) (width decimals : Nat) :
    width ≤ (integerDigits i width decimals).whole.length := by
  simp only [integerDigits, paddedDigits, List.length_leftpad]
  omega

/-! ## Formats of integers -/

/-- Whether reading what a format writes of an integer gives this value, with at least `width`
integer digits and exactly `decimals` fraction digits. -/
def Shows (culture : Culture) (format : Text) (i : Int) (pattern : Text) (width decimals : Nat)
    (value : Int) : Prop :=
  ∃ s f, Number.format culture format (integer i) = some (.ok s) ∧
    Fixed.read? culture pattern decimals s = some f ∧
    width ≤ f.whole.length ∧ f.fraction.length = decimals ∧ f.value = value

section Formats

variable {culture : Culture} {format pattern s : Text} {i j : Int} {width decimals : Nat}

theorem shows_of_read? (hformat : Number.format culture format (integer i) = some (.ok s))
    (hread : Fixed.read? culture pattern decimals s = some (integerDigits j width decimals)) :
    Shows culture format i pattern width decimals j :=
  ⟨s, _, hformat, hread, le_length_whole_integerDigits j width decimals, List.length_replicate,
    value_integerDigits j width decimals⟩

theorem shows_inPattern (hculture : culture.HasPlainSeparators) (hpattern : 'n' ∈ pattern)
    (hformat : Number.format culture format (integer i) =
      some (.ok (inPattern culture pattern ((integer j).fixed decimals)))) :
    Shows culture format i pattern 0 decimals j := by
  rw [fixed_integer] at hformat
  exact shows_of_read? hformat
    (read?_inPattern hculture hpattern (hasDigits_integerDigits j 0 decimals)
      (whole_integerDigits_ne_nil j 0 decimals) List.length_replicate)

theorem shows_grouped (hculture : culture.HasPlainSeparators)
    (hformat : Number.format culture format (integer i) =
      some (.ok (withSign ((integer j).fixed decimals).negative
        (grouped culture ((integer j).fixed decimals))))) :
    Shows culture format i "n" 0 decimals j := by
  rw [fixed_integer] at hformat
  have hdigits := hasDigits_integerDigits j 0 decimals
  exact shows_of_read? hformat (read?_plain hdigits List.length_replicate
    (isWhole_group hculture (whole_integerDigits_ne_nil j 0 decimals) hdigits.whole))

theorem shows_plain (hculture : culture.HasPlainSeparators)
    (hformat : Number.format culture format (integer i) =
      some (.ok (withSign (integerDigits j width decimals).negative
        (joinFraction culture (integerDigits j width decimals).whole
          (integerDigits j width decimals).fraction)))) :
    Shows culture format i "n" width decimals j := by
  have hdigits := hasDigits_integerDigits j width decimals
  exact shows_of_read? hformat (read?_plain hdigits List.length_replicate
    (isWhole_self hculture (whole_integerDigits_ne_nil j width decimals) hdigits.whole))

theorem integerText_eq (culture : Culture) (i : Int) :
    integerText i = withSign (integerDigits i 0 0).negative
      (joinFraction culture (integerDigits i 0 0).whole (integerDigits i 0 0).fraction) := by
  simp [integerText, withSign, joinFraction, integerDigits, paddedDigits, List.leftpad]

theorem scale_hundred (i : Json.Integer) : (integer i.val).scale 100 = integer (100 * i.val) := by
  have hlow := i.le_val
  have hhigh := i.val_lt
  have hwide : IsWide (i.val * 100) := by
    unfold IsWide
    omega
  rw [scale, if_pos hwide, mul_comm]

end Formats

/-- The integers that a model can hold are read back from all formats that do not use a floating
point number, in every culture whose separators are not taken for digits. -/
theorem format_integer_reads_back [LocaleData] :
    (∀ locale, (Culture.ofLocale locale).HasPlainSeparators ∧
      (Culture.ofLocale locale).HasAmounts) ∧
    ∀ (culture : Culture), culture.HasPlainSeparators →
      ∀ (i : Json.Integer) (precision : Option Nat) (format : Text),
      ('n' ∈ culture.currency → IsStandard format 'C' precision →
        Shows culture format i.val culture.currency 0 (precision.getD 2) i.val) ∧
      (IsStandard format 'D' precision →
        Shows culture format i.val "n" (precision.getD 0) 0 i.val) ∧
      (IsStandard format 'F' precision →
        Shows culture format i.val "n" 0 (precision.getD 2) i.val) ∧
      (IsStandard format 'G' precision → precision.filter (0 < ·) = none →
        Shows culture format i.val "n" 0 0 i.val) ∧
      (IsStandard format 'N' precision →
        Shows culture format i.val "n" 0 (precision.getD 2) i.val) ∧
      ('n' ∈ culture.percent → IsStandard format 'P' precision →
        Shows culture format i.val culture.percent 0 (precision.getD 2) (100 * i.val)) ∧
      (IsStandard format 'R' precision → Shows culture format i.val "n" 0 0 i.val) ∧
      (IsStandard format 'X' precision →
        ∃ s, Number.format culture format (integer i.val) = some (.ok s) ∧
          Text.natural? 16 s = some (i.val % 2 ^ 64).toNat ∧ precision.getD 0 ≤ s.length) := by
  refine ⟨Culture.hasPlainSeparators_ofLocale, ?_⟩
  intro culture hculture i precision format
  refine ⟨fun hamount h => ?_, fun h => ?_, fun h => ?_, fun h hprecision => ?_, fun h => ?_,
    fun hamount h => ?_, fun h => ?_, fun h => ?_⟩
  all_goals obtain ⟨c, hc, hformat⟩ := h.formatFinite_eq culture (integer i.val)
  all_goals simp only [standard, hc] at hformat
  · exact shows_inPattern hculture hamount hformat
  · exact shows_plain hculture (hformat.trans (by simp [integerDigits, joinFraction]))
  · rw [fixed_integer] at hformat
    exact shows_plain hculture hformat
  · rw [hprecision, general, integerText_eq culture] at hformat
    exact shows_plain hculture hformat
  · exact shows_grouped hculture hformat
  · rw [scale_hundred] at hformat
    exact shows_inPattern hculture hamount hformat
  · rw [general, integerText_eq culture] at hformat
    exact shows_plain hculture hformat
  · exact ⟨_, hformat, natural?_hexadecimal i.val_lt _ _, le_length_hexadecimal _ _ _⟩

/-- The least integer, with a pattern behind the digits, and as a bit pattern. -/
theorem format_integer_reads_back_least :
    Culture.de.HasPlainSeparators ∧ Culture.de.HasAmounts ∧
      (IsStandard "c3" 'C' (some 3) ∧
        Number.format .de "c3" (integer (-2 ^ 63)) =
          some (.ok "-9.223.372.036.854.775.808,000\u00a0€") ∧
        Shows .de "c3" (-2 ^ 63) Culture.de.currency 0 3 (-2 ^ 63)) ∧
      (IsStandard "G0" 'G' (some 0) ∧ Option.filter (0 < ·) (some 0) = none ∧
        Shows .de "G0" (-2 ^ 63) "n" 0 0 (-2 ^ 63)) ∧
      (IsStandard "P0" 'P' (some 0) ∧
        Shows .de "P0" (-2 ^ 63) Culture.de.percent 0 0 (100 * -2 ^ 63)) ∧
      (IsStandard "X20" 'X' (some 20) ∧
        ∃ s, Number.format .de "X20" (integer (-2 ^ 63)) = some (.ok s) ∧
          Text.natural? 16 s = some (2 ^ 63) ∧ 20 ≤ s.length) := by
  obtain ⟨hseparators, hamounts⟩ := Culture.hasPlainSeparators_builtin .de (by simp)
  have hcurrency : IsStandard "c3" 'C' (some 3) := ⟨'c', "3", rfl, rfl, rfl⟩
  have hgeneral : IsStandard "G0" 'G' (some 0) := ⟨'G', "0", rfl, rfl, rfl⟩
  have hpercent : IsStandard "P0" 'P' (some 0) := ⟨'P', "0", rfl, rfl, rfl⟩
  have hhexadecimal : IsStandard "X20" 'X' (some 20) := ⟨'X', "20", rfl, rfl, rfl⟩
  have hreads := format_integer_reads_back.2 .de hseparators
    ⟨-2 ^ 63, by decide, by decide⟩
  obtain ⟨hC, -⟩ := hreads (some 3) "c3"
  obtain ⟨-, -, -, hG, -⟩ := hreads (some 0) "G0"
  obtain ⟨-, -, -, -, -, hP, -⟩ := hreads (some 0) "P0"
  obtain ⟨-, -, -, -, -, -, -, hX⟩ := hreads (some 20) "X20"
  exact ⟨hseparators, hamounts, ⟨hcurrency, by decide, hC hamounts.2 hcurrency⟩,
    ⟨hgeneral, rfl, hG hgeneral rfl⟩, ⟨hpercent, hP hamounts.1 hpercent⟩,
    hhexadecimal, hX hhexadecimal⟩

end Number

end Phrasebook
