import Phrasebook.Proofs.Binary64.Division
import Phrasebook.Proofs.Number.Agreement
import Phrasebook.Proofs.Number.Exactness

/-!
# Scaling commas

Commas behind the only place of a pattern divide by a thousand each. The first division takes an
integer to the nearest floating point number, and every quotient is rounded. The divisions do not
change the integer that the pattern shows as long as they cross no tie, so a wrong digit comes from
the conversion alone.
-/

namespace Phrasebook.Number

open Binary64 hiding zero

open Token

attribute [local irreducible] ofUnits unitsOfOne unitLimit

/-! ## Pattern -/

theorem ofText_replicate_comma (count : Nat) :
    ofText (List.replicate count ',') = List.replicate count comma := by
  induction count with
  | zero => rfl
  | succ count ih => rw [List.replicate_succ, ofText_comma, ih, List.replicate_succ]

theorem layout_commas (count : Nat) :
    Layout.ofTokens (zero :: List.replicate count comma) = ⟨1, 1, 0, 0, false, count⟩ := by
  have hpoint : point ∉ zero :: List.replicate count comma := by simp
  have hdigits : (List.replicate count comma).filter isDigit = [] :=
    List.filter_replicate_of_neg (by decide)
  have hfirst : (zero :: List.replicate count comma).dropWhile (!·.isDigit) =
      zero :: List.replicate count comma := rfl
  have hdrop : (List.replicate count comma ++ [zero]).dropWhile (!·.isDigit) = [zero] := by
    rw [List.dropWhile_append_of_pos]
    · rfl
    · intro t ht
      rw [List.eq_of_mem_replicate ht]
      rfl
  have htake : (List.replicate count comma ++ [zero]).takeWhile (!·.isDigit) =
      List.replicate count comma := by
    rw [List.takeWhile_append_of_pos]
    · exact List.append_nil _
    · intro t ht
      rw [List.eq_of_mem_replicate ht]
      rfl
  simp only [Layout.ofTokens, integerPart_of_notMem hpoint, fractionPart_of_notMem hpoint]
  rw [List.filter_cons_of_pos rfl, hdigits, hfirst, List.reverse_cons, List.reverse_replicate,
    hdrop, htake, List.count_replicate_self]
  rfl

theorem emitInteger_commas {culture : Culture} {layout : Layout} {d : Digits} {seen : Nat}
    (count : Nat) : emitInteger culture layout d seen (List.replicate count comma) = [] := by
  induction count with
  | zero => rfl
  | succ count ih => rw [List.replicate_succ, emitInteger, ih]

theorem formatFinite_commas (culture : Culture) (count : Nat) (n : Number) :
    formatFinite culture ('0' :: List.replicate count ',') n =
      some (.ok (withSign ((Nat.repeat divideByThousand count n).fixed 0).negative
        ((Nat.repeat divideByThousand count n).fixed 0).whole)) := by
  have htokens : ofText ('0' :: List.replicate count ',') =
      zero :: List.replicate count comma := by rw [ofText_zero, ofText_replicate_comma]
  have hexponent : (zero :: List.replicate count comma).any isExponent = false := by
    simp [isExponent]
  have hscaled : n.scaleBy (zero :: List.replicate count comma) = n :=
    scaleBy_of_notMem (by simp) (by simp) n
  have hfirst : ∀ whole : Text, digitsAt 1 0 whole = whole := fun whole => by simp [digitsAt]
  rw [formatFinite_pattern htokens (by simp) ⟨'0', _, rfl, rfl⟩, formatSection?, scaled?,
    hexponent, if_neg Bool.false_ne_true, hscaled, layout_commas, Option.map_some, Option.map_some]
  simp only [Bool.true_and, emitInteger, emitInteger_commas, List.append_nil, placeText, hfirst,
    Bool.false_eq_true, if_false, padWhole_one (whole_fixed_ne_nil _ 0)]

/-! ## Divisions -/

theorem divideByThousand_of_finite {n : Number} {negative : Bool} {m : Magnitude}
    (hn : n.toBinary64 = .finite ⟨negative, m⟩) :
    ∃ q : Magnitude, q.units = roundUnits m.units 1000 ∧
      n.divideByThousand = float (.finite ⟨negative, q⟩) := by
  obtain ⟨t, hunits, hthousand⟩ := ofInt_natCast (by decide : 1000 ≤ 2 ^ 53)
  have hlt : roundUnits m.units 1000 < unitLimit :=
    (roundUnits_thousand_le m.spare_dvd).trans_lt m.units_lt
  obtain ⟨q, hq, hfinite⟩ := ofUnits_of_lt negative hlt
  have hone := unitsOfOne_pos
  have hne : t.units ≠ 0 := by
    rw [hunits]
    exact (Nat.mul_pos (by decide) hone).ne'
  have hquotient : (finite ⟨negative, m⟩).div (ofInt 1000) = .finite ⟨negative, q⟩ := by
    rw [show ofInt 1000 = .finite ⟨false, t⟩ from hthousand, div_eq_ofUnits _ hne, hunits,
      Bool.bne_false, ← hfinite]
    exact ofUnits_congr (Nat.mul_pos (by decide) hone) (by decide) (by ring)
  exact ⟨q, hq, by rw [divideByThousand, hn, hquotient]⟩

/-- Dividing an integer again and again keeps its sign and rounds every quotient. -/
theorem repeat_divideByThousand {i : Int} (hi : i.natAbs ≤ 2 ^ 127) (count : Nat) :
    ∃ m : Magnitude, m.units = divided count (roundUnits i.natAbs 1 * unitsOfOne) ∧
      (Nat.repeat divideByThousand count (integer i)).toBinary64 =
        .finite ⟨decide (i < 0), m⟩ := by
  induction count with
  | zero => exact ofInt_eq hi
  | succ count ih =>
      obtain ⟨m, hunits, hfinite⟩ := ih
      obtain ⟨q, hq, hquotient⟩ := divideByThousand_of_finite hfinite
      refine ⟨q, by rw [hq, hunits, divided_succ], ?_⟩
      rw [Nat.repeat, hquotient, toBinary64]

/-- The natural that is shown of the size of an integer: the one nearest to the quotient that the
rounded divisions leave. -/
def shownThousands (i : Int) (count : Nat) : Nat :=
  roundHalfEven (divided count (roundUnits i.natAbs 1 * unitsOfOne)) unitsOfOne

/-- A natural with the sign of an integer. -/
def signed (i : Int) (n : Nat) : Int := if i < 0 then -n else n

theorem signed_inj {i : Int} {m n : Nat} : signed i m = signed i n ↔ m = n := by
  unfold signed
  split <;> omega

theorem withSign_eq_integerText (i : Int) (n : Nat) :
    withSign (decide (i < 0) && n != 0) (digits n) = integerText (signed i n) := by
  have hsign : (decide (i < 0) && n != 0) = decide (signed i n < 0) := by
    rw [Bool.eq_iff_iff, Bool.and_eq_true, decide_eq_true_iff, decide_eq_true_iff,
      bne_iff_ne, signed]
    split <;> omega
  have habs : (signed i n).natAbs = n := by
    rw [signed]
    split <;> omega
  rw [integerText_eq_withSign, habs, hsign]

theorem formatFinite_commas_integer (culture : Culture) {i : Int} (hi : i.natAbs ≤ 2 ^ 127)
    {count : Nat} (hcount : 1 ≤ count) :
    formatFinite culture ('0' :: List.replicate count ',') (integer i) =
      some (.ok (integerText (signed i (shownThousands i count)))) := by
  obtain ⟨before, rfl⟩ := Nat.exists_eq_add_of_le' hcount
  obtain ⟨m, hunits, hfinite⟩ := repeat_divideByThousand hi before
  obtain ⟨q, hq, hquotient⟩ := divideByThousand_of_finite hfinite
  rw [hunits, ← divided_succ] at hq
  have hscaled : q.scaled 0 = shownThousands i (before + 1) := by
    rw [Magnitude.scaled, hq, Nat.pow_zero, Nat.mul_one, shownThousands]
  obtain ⟨shown, hshown⟩ : ∃ shown, shownThousands i (before + 1) = shown := ⟨_, rfl⟩
  have hnonzero : (digits shown).any (· != '0') = (shown != 0) := by
    rw [← paddedDigits_one]
    exact any_ne_zero_paddedDigits 1 shown
  rw [formatFinite_commas, Nat.repeat, hquotient]
  simp only [fixed, Magnitude.fixed, hscaled, hshown, Nat.pow_zero, Nat.div_one, if_true,
    List.append_nil, hnonzero, withSign_eq_integerText]

/-! ## When the divisions do not count -/

/-- Whether a significand holds all ties next to a quotient by a power of a thousand, or there are
more divisions than that power needs for any integer of 64 bits. -/
def CrossesNoTie (i : Int) (count : Nat) : Prop :=
  5 ≤ count ∨ i.natAbs + 1000 ^ count ≤ 2 ^ (52 + 3 * count)

theorem crossesNoTie_of_le {i : Int} (hi : i.natAbs ≤ 2 ^ 53) {count : Nat} (hcount : 0 < count) :
    CrossesNoTie i count := by
  rcases Nat.lt_or_ge 4 count with hmore | hfew
  · exact .inl hmore
  · right
    interval_cases count <;> omega

/-- The double nearest to an integer is in the same range. -/
theorem roundUnits_add_le {n count : Nat} (h : n + 1000 ^ count ≤ 2 ^ (52 + 3 * count)) :
    roundUnits n 1 + 1000 ^ count ≤ 2 ^ (52 + 3 * count) := by
  have hlimit : 2 ^ (52 + 3 * count) - 1000 ^ count = (2 ^ 52 - 125 ^ count) * 2 ^ (3 * count) := by
    rw [thousand_pow, Nat.pow_add, Nat.sub_mul]
  have hfits : 2 ^ 52 - 125 ^ count ≤ 2 ^ 53 := (Nat.sub_le _ _).trans (by decide)
  have hself := roundUnits_one_of_dvd (hlimit ▸ spare_dvd_of_le hfits (3 * count))
  have hmono :=
    roundUnits_mono (n := n) (d := 1) (m := 2 ^ (52 + 3 * count) - 1000 ^ count) (e := 1)
    (by decide) (by decide) (by omega)
  omega

theorem roundUnits_le_two_pow_of_le {n e : Nat} (h : n ≤ 2 ^ e) : roundUnits n 1 ≤ 2 ^ e := by
  have hfits := spare_dvd_of_le (by decide : 1 ≤ 2 ^ 53) e
  rw [Nat.one_mul] at hfits
  have hmono := roundUnits_mono (n := n) (d := 1) (m := 2 ^ e) (e := 1) (by decide) (by decide)
    (by omega)
  rwa [roundUnits_one_of_dvd hfits] at hmono

/-- The shown natural is the one nearest to the quotient of the double, divided once and exactly. -/
theorem shownThousands_eq {i : Json.Integer} {count : Nat} (h : CrossesNoTie i.val count) :
    shownThousands i.val count = roundHalfEven (roundUnits i.val.natAbs 1) (1000 ^ count) := by
  have hfits : 2 ^ spareBits (roundUnits i.val.natAbs 1 * unitsOfOne) ∣
      roundUnits i.val.natAbs 1 * unitsOfOne := by
    rw [← roundUnits_mul_unitsOfOne]
    exact spare_dvd_roundUnits _ _
  have hsmall : roundUnits i.val.natAbs 1 ≤ 2 ^ 64 := by
    have hlow := i.le_val
    have hhigh := i.val_lt
    exact roundUnits_le_two_pow_of_le (by omega)
  rcases Nat.lt_or_ge count 7 with hfew | hmore
  · refine roundHalfEven_divided hfits ?_
    rcases h with hfive | hrange
    · interval_cases count <;> omega
    · exact roundUnits_add_le hrange
  · exact roundHalfEven_divided_of_le hfits hsmall hmore

/-- The text of the integer nearest to a quotient by a power of a thousand. -/
def quotientText (i : Int) (count : Nat) : Text :=
  integerText (signed i (roundHalfEven i.natAbs (1000 ^ count)))

/-- A place with commas behind it shows what the rounded divisions leave of an integer, so the
nearest quotient exactly if they leave a number next to it. As long as no tie is crossed this is the
quotient of the nearest floating point number: it is right for all integers that are floating point
numbers themselves, and for all of at most 53 bits. -/
theorem format_commas_nearest_iff (culture : Culture) (i : Json.Integer) {count : Nat}
    (hcount : 1 ≤ count) :
    ∃ s, Number.format culture ('0' :: List.replicate count ',') (integer i.val) = some (.ok s) ∧
      s = integerText (signed i.val (shownThousands i.val count)) ∧
      (s = quotientText i.val count ↔
        shownThousands i.val count = roundHalfEven i.val.natAbs (1000 ^ count)) ∧
      (CrossesNoTie i.val count →
        shownThousands i.val count = roundHalfEven (roundUnits i.val.natAbs 1) (1000 ^ count)) ∧
      (CrossesNoTie i.val count → IsExact i.val → s = quotientText i.val count) ∧
      (i.val.natAbs ≤ 2 ^ 53 → s = quotientText i.val count) := by
  have hexact : CrossesNoTie i.val count → IsExact i.val →
      integerText (signed i.val (shownThousands i.val count)) = quotientText i.val count := by
    intro hrange hexact
    rw [shownThousands_eq hrange, (isExact_iff_roundUnits i.natAbs_le).1 hexact, quotientText]
  refine ⟨_, formatFinite_commas_integer culture i.natAbs_le hcount, rfl, ?_, shownThousands_eq,
    hexact, fun hsmall => hexact (crossesNoTie_of_le hsmall hcount) (isExact_of_le hsmall)⟩
  rw [quotientText, integerText_inj, signed_inj]

/-- The least integer of a model is a floating point number, and four divisions cross no tie. A tie
itself goes to the even neighbour. -/
theorem format_commas_nearest_iff_least :
    1 ≤ 4 ∧ CrossesNoTie (-9223372036854775808) 4 ∧ IsExact (-9223372036854775808) ∧
      Number.format .invariant "0,,,," (integer (-9223372036854775808)) = some (.ok "-9223372") ∧
      1 ≤ 1 ∧ (2500 : Int).natAbs ≤ 2 ^ 53 ∧
      Number.format .invariant "0," (integer 2500) = some (.ok "2") := by
  have hfour : 1 ≤ 4 := by decide
  have hrange : CrossesNoTie (-9223372036854775808) 4 := .inr (by decide)
  have hexact : IsExact (-9223372036854775808) := by
    rw [isExact_iff_dvd (by decide)]
    decide
  have hsmall : (2500 : Int).natAbs ≤ 2 ^ 53 := by decide
  obtain ⟨s, hs, -, -, -, hnearest, -⟩ :=
    format_commas_nearest_iff .invariant ⟨-9223372036854775808, by decide, by decide⟩ hfour
  obtain ⟨t, ht, -, -, -, -, hnearest'⟩ :=
    format_commas_nearest_iff .invariant ⟨2500, by decide, by decide⟩ (le_refl 1)
  have hs' : s = "-9223372" := (hnearest hrange hexact).trans (by decide)
  have ht' : t = "2" := (hnearest' hsmall).trans (by decide)
  exact ⟨hfour, hrange, hexact, hs' ▸ hs, le_refl 1, hsmall, ht' ▸ ht⟩

/-- The floating point number nearest to this integer ends in 500 and is a tie, which goes up. -/
theorem format_commas_ne_nearest :
    Number.format .invariant "0," (integer 9007199254741499) = some (.ok "9007199254742") ∧
      quotientText 9007199254741499 1 = "9007199254741" := by
  have hrange : CrossesNoTie 9007199254741499 1 := .inr (by decide)
  have hshown : shownThousands 9007199254741499 1 = 9007199254742 :=
    (@shownThousands_eq ⟨9007199254741499, by decide, by decide⟩ 1 hrange).trans (by decide)
  have htext := formatFinite_commas_integer .invariant
    (by decide : (9007199254741499 : Int).natAbs ≤ 2 ^ 127) (le_refl 1)
  rw [hshown] at htext
  exact ⟨htext, by decide⟩

end Phrasebook.Number
