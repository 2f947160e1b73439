import Phrasebook.Culture.Tables
import Phrasebook.Number.Format
import Phrasebook.Proofs.Number.Places

/-!
# Standard formats and the custom patterns that spell them out

Every number is written the same by `F`, `N` and `P` with a precision and by a pattern with that
many decimals, and every integer by `D` and by a pattern of zeros. Standard formats join the digits
of the rounded number; a pattern lays the same digits out over its places.
-/

namespace Phrasebook.Number

open Token

/-- Whether two formats write a number as the same text. -/
def SameText (culture : Culture) (format other : Text) (n : Number) : Prop :=
  ∃ s, Number.format culture format n = some (.ok s) ∧
    Number.format culture other n = some (.ok s)

theorem sameText_of_formatFinite {culture : Culture} {format other : Text} {n : Number} {s : Text}
    (hformat : formatFinite culture format n = some (.ok s))
    (hother : formatFinite culture other n = some (.ok s)) : SameText culture format other n := by
  match n with
  | integer i => exact ⟨s, hformat, hother⟩
  | float .nan => exact ⟨_, rfl, rfl⟩
  | float (.infinite negative) => exact ⟨_, rfl, rfl⟩
  | float (.finite x) => exact ⟨s, hformat, hother⟩

theorem formatFinite_standard {precision : Nat} (hprecision : precision ≤ maxPrecision)
    {letter : Char} (hletter : letter.isAlpha = true) (culture : Culture) (n : Number) :
    formatFinite culture (letter :: digits precision) n =
      some (standard culture n letter (some precision)) := by
  have hread : standard? (letter :: digits precision) = some (letter, digits precision) := by
    simp only [standard?, hletter, all_isDigit_digits, and_self, if_true]
  have hvalue : precision? (digits precision) = .ok (some precision) := by
    simp only [precision?, List.isEmpty_iff, digits_ne_nil, if_false, valueOf_digits, hprecision,
      if_true]
  simp only [formatFinite, hread, formatStandard, hvalue]

theorem formatFinite_pattern {pattern : Text} {ts : List Token} (htokens : ofText pattern = ts)
    (hsection : semicolon ∉ ts) (hstart : ∃ c s, pattern = c :: s ∧ c.isAlpha = false)
    (culture : Culture) (n : Number) :
    formatFinite culture pattern n = (formatSection? culture ts n true).map .ok := by
  have hread : standard? pattern = none := by
    obtain ⟨c, s, rfl, hc⟩ := hstart
    simp [standard?, hc]
  rw [← htokens] at hsection
  simp only [formatFinite, hread, custom?, choose_of_notMem hsection, htokens]

/-! ## Decimals -/

section Decimals

variable {lead tail : List Token} {places precision : Nat} {grouping : Bool} {n m : Number}

/-- A section with decimals behind its integer places writes the rounded number with all its
fraction digits. -/
theorem formatSection?_decimals (culture : Culture) (hpoint : point ∉ lead)
    (htail : ∀ t ∈ tail, t.isDigit = false)
    (hexponent : (lead ++ tail).any isExponent = false)
    (hlayout : Layout.ofTokens lead = ⟨places, 1, 0, 0, grouping, 0⟩) (hplaces : places ≠ 0)
    (hscaled : n.scaleBy (lead ++ point :: (List.replicate precision zero ++ tail)) = m) :
    formatSection? culture (lead ++ point :: (List.replicate precision zero ++ tail)) n true =
      some (withSign (m.fixed precision).negative
        (joinFraction culture
          (emitInteger culture ⟨places, 1, precision, precision, grouping, 0⟩
            ⟨(m.fixed precision).whole, (m.fixed precision).fraction, 0⟩ 0 lead)
          (m.fixed precision).fraction ++
        emitFraction ⟨(m.fixed precision).whole, (m.fixed precision).fraction, 0⟩ precision
          tail)) := by
  have hsection : Layout.ofTokens (lead ++ point :: (List.replicate precision zero ++ tail)) =
      ⟨places, 1, precision, precision, grouping, 0⟩ := by
    rw [layout_decimals hpoint htail, hlayout]
  have hany : (lead ++ point :: (List.replicate precision zero ++ tail)).any isExponent =
      false := by
    rw [List.any_append, Bool.or_eq_false_iff] at hexponent
    simp [List.any_append, hexponent, isExponent]
  rw [formatSection?_of_not_exponent hany (by rw [hsection]), hscaled, hsection]
  simp only [Bool.true_and, padWhole_one (whole_fixed_ne_nil m precision),
    trimFraction_of_length_le (length_fraction_fixed_le m precision)]
  rw [emitInteger_append_point hpoint,
    append_pointText_append hplaces (length_fraction_fixed_le m precision)]

theorem formatFinite_zero_point (culture : Culture) (precision : Nat) (n : Number) :
    formatFinite culture ("0." ++ List.replicate precision '0') n =
      some (.ok (withSign (n.fixed precision).negative
        (joinFraction culture (n.fixed precision).whole (n.fixed precision).fraction))) := by
  have htokens : ofText ("0." ++ List.replicate precision '0') =
      [zero] ++ point :: (List.replicate precision zero ++ []) := by
    simpa using ofText_replicate_zero precision []
  have hscaled : n.scaleBy ([zero] ++ point :: (List.replicate precision zero ++ [])) = n :=
    scaleBy_of_notMem (by simp) (by simp) n
  have hfirst : ∀ whole : Text, digitsAt 1 0 whole = whole := fun whole => by simp [digitsAt]
  rw [formatFinite_pattern htokens (by simp) ⟨'0', _, rfl, rfl⟩,
    formatSection?_decimals culture (by decide) (by simp) (by decide)
      (by decide : Layout.ofTokens [zero] = ⟨1, 1, 0, 0, false, 0⟩) (by decide) hscaled]
  simp [emitInteger, emitFraction, placeText, hfirst]

/-- A grouping comma between the places puts all groups at the first of them. -/
theorem formatSection?_grouped (culture : Culture) (htail : ∀ t ∈ tail, t.isDigit = false)
    (hexponent : tail.any isExponent = false)
    (hscaled : n.scaleBy ([hash, comma, hash, hash, zero] ++
      point :: (List.replicate precision zero ++ tail)) = m) :
    formatSection? culture ([hash, comma, hash, hash, zero] ++
        point :: (List.replicate precision zero ++ tail)) n true =
      some (withSign (m.fixed precision).negative (grouped culture (m.fixed precision) ++
        emitFraction ⟨(m.fixed precision).whole, (m.fixed precision).fraction, 0⟩ precision
          tail)) := by
  rw [formatSection?_decimals culture (by decide) htail (by simpa [isExponent] using hexponent)
    (by decide : Layout.ofTokens [hash, comma, hash, hash, zero] = ⟨4, 1, 0, 0, true, 0⟩)
    (by decide) hscaled]
  simp [emitInteger, placeText, grouped]

theorem formatFinite_grouped (culture : Culture) (precision : Nat) (n : Number) :
    formatFinite culture ("#,##0." ++ List.replicate precision '0') n =
      some (.ok (withSign (n.fixed precision).negative (grouped culture (n.fixed precision)))) := by
  have htokens : ofText ("#,##0." ++ List.replicate precision '0') =
      [hash, comma, hash, hash, zero] ++ point :: (List.replicate precision zero ++ []) := by
    simpa using ofText_replicate_zero precision []
  have hscaled : n.scaleBy ([hash, comma, hash, hash, zero] ++
      point :: (List.replicate precision zero ++ [])) = n :=
    scaleBy_of_notMem (by simp) (by simp) n
  rw [formatFinite_pattern htokens (by simp) ⟨'#', _, rfl, rfl⟩,
    formatSection?_grouped culture (by simp) rfl hscaled]
  simp [emitFraction]

/-- A percent sign behind the decimals multiplies by a hundred and is shown. -/
theorem formatFinite_grouped_percent (culture : Culture) (precision : Nat) (n : Number) :
    formatFinite culture ("#,##0." ++ List.replicate precision '0' ++ "%") n =
      some (.ok (withSign ((n.scale 100).fixed precision).negative
        (grouped culture ((n.scale 100).fixed precision) ++ "%"))) := by
  have htokens : ofText ("#,##0." ++ List.replicate precision '0' ++ "%") =
      [hash, comma, hash, hash, zero] ++ point :: (List.replicate precision zero ++ [percent]) := by
    simp
  have hscaled : n.scaleBy ([hash, comma, hash, hash, zero] ++
      point :: (List.replicate precision zero ++ [percent])) = n.scale 100 := by
    have hfront : n.scaleBy ([hash, comma, hash, hash, zero] ++
        point :: List.replicate precision zero) = n :=
      scaleBy_of_notMem (by simp) (by simp) n
    rw [← List.cons_append, ← List.append_assoc, scaleBy_append, hfront]
    rfl
  rw [formatFinite_pattern htokens (by simp) ⟨'#', _, rfl, rfl⟩,
    formatSection?_grouped culture (by simp [isDigit]) rfl hscaled]
  simp [emitFraction]

end Decimals

/-! ## Zeros -/

theorem formatFinite_zeros (culture : Culture) {places : Nat} (hplaces : 0 < places) (i : Int) :
    formatFinite culture (List.replicate places '0') (integer i) =
      some (.ok (withSign (decide (i < 0)) (paddedDigits places i.natAbs))) := by
  have htokens : ofText (List.replicate places '0') = List.replicate places zero := by
    simpa using ofText_replicate_zero places []
  have hscaled : (integer i).scaleBy (List.replicate places zero) = integer i :=
    scaleBy_of_notMem (by simp) (by simp) _
  have hpattern : formatFinite culture (List.replicate places '0') (integer i) =
      (formatSection? culture (List.replicate places zero) (integer i) true).map .ok := by
    obtain ⟨rest, rfl⟩ := Nat.exists_eq_add_one_of_ne_zero (Nat.ne_of_gt hplaces)
    exact formatFinite_pattern htokens (by simp) ⟨'0', _, List.replicate_succ, rfl⟩ culture _
  rw [hpattern, formatSection?_of_not_exponent (by simp [isExponent])
    (by rw [layout_replicate_zero]), hscaled, layout_replicate_zero]
  simp only [fixed, Bool.true_and, padWhole_digits hplaces, List.replicate_zero]
  rw [@emitInteger_replicate_zero culture ⟨places, places, 0, 0, false, 0⟩ _ rfl hplaces]
  rfl

/-- Standard formats with a precision write what the patterns write that spell them out. -/
theorem standard_eq_pattern (culture : Culture) {precision : Nat} (h : precision ≤ 99) :
    (∀ n, SameText culture ('F' :: digits precision)
      ("0." ++ List.replicate precision '0') n) ∧
    (∀ n, SameText culture ('N' :: digits precision)
      ("#,##0." ++ List.replicate precision '0') n) ∧
    (culture.percent = "n%" → ∀ n, SameText culture ('P' :: digits precision)
      ("#,##0." ++ List.replicate precision '0' ++ "%") n) ∧
    (∀ i, SameText culture ('D' :: digits precision)
      (List.replicate (max precision 1) '0') (integer i)) := by
  have hstandard := fun letter (hletter : Char.isAlpha letter = true) =>
    formatFinite_standard h hletter culture
  refine ⟨fun n => ?_, fun n => ?_, fun hpercent n => ?_, fun i => ?_⟩
  · exact sameText_of_formatFinite (hstandard 'F' rfl n) (formatFinite_zero_point ..)
  · exact sameText_of_formatFinite (hstandard 'N' rfl n) (formatFinite_grouped ..)
  · have hpattern : inPattern culture culture.percent ((n.scale 100).fixed precision) =
        withSign ((n.scale 100).fixed precision).negative
          (grouped culture ((n.scale 100).fixed precision) ++ "%") := by
      rw [inPattern, hpercent]
      rfl
    refine sameText_of_formatFinite ?_ (formatFinite_grouped_percent ..)
    exact (hstandard 'P' rfl n).trans (congrArg (some ∘ Except.ok) hpattern)
  · refine sameText_of_formatFinite ?_ (formatFinite_zeros culture (by omega) i)
    rw [paddedDigits_max_one]
    exact hstandard 'D' rfl (integer i)

/-- A float that rounds to a thousand percent, in a culture whose percent sign follows at once. -/
theorem standard_eq_pattern_percent :
    2 ≤ 99 ∧ Culture.enUS.percent = "n%" ∧
      Number.format .enUS "P2" (float (Binary64.ofRatio false 999999 100000)) =
        some (.ok "1,000.00%") ∧
      Number.format .enUS "#,##0.00%" (float (Binary64.ofRatio false 999999 100000)) =
        some (.ok "1,000.00%") := by
  have hstandard : Number.format .enUS "P2" (float (Binary64.ofRatio false 999999 100000)) =
      some (.ok "1,000.00%") := by decide +kernel
  obtain ⟨s, hformat, hpattern⟩ := (standard_eq_pattern .enUS (by decide : 2 ≤ 99)).2.2.1 rfl
    (float (Binary64.ofRatio false 999999 100000))
  obtain rfl := Except.ok.inj (Option.some.inj (hstandard.symm.trans hformat))
  exact ⟨by decide, rfl, hstandard, hpattern⟩

end Phrasebook.Number
