import Phrasebook.Proofs.Binary64.Integer
import Phrasebook.Proofs.Number.Agreement
import Phrasebook.Proofs.Number.Finiteness
import Phrasebook.Proofs.Number.Mantissa

/-!
# The two scientific notations

`E` with a precision takes its digits from the exact decimal expansion. A pattern of one place,
decimals and an exponent divides by a rounded power of ten and rounds the quotient. Both give the
same text when the two roundings agree.
-/

namespace Phrasebook.Number

open Binary64

attribute [local irreducible] ofUnits unitsOfOne unitLimit

/-! ## Rows of digits with an exponent -/

/-- A row of `precision + 1` digits with its exponent. -/
def scientificText (culture : Culture) (precision : Nat) (s : Scientific) (negative : Bool) :
    Text :=
  withSign negative
    (joinFraction culture (digits (s.digits / 10 ^ precision))
      (paddedDigits precision (s.digits % 10 ^ precision)) ++ exponentText s.exponent 3 true)

theorem exponentText_inj {e f : Int} (h : exponentText e 3 true = exponentText f 3 true) :
    e = f := by
  unfold exponentText at h
  obtain ⟨-, h⟩ := List.cons.inj h
  obtain ⟨hsign, habs⟩ := List.cons.inj h
  have habs' : e.natAbs = f.natAbs := by
    rw [← valueOf_paddedDigits 3 e.natAbs, habs, valueOf_paddedDigits]
  have hsign' : e < 0 ↔ f < 0 := by
    split_ifs at hsign with he hf hf
    · exact iff_of_true he hf
    · exact absurd hsign (by decide)
    · exact absurd hsign (by decide)
    · exact iff_of_false he hf
  omega

section Text

variable {culture : Culture} {precision : Nat} {s t : Scientific}

theorem length_digits_div (hs : s.digits < 10 ^ (precision + 1)) :
    (digits (s.digits / 10 ^ precision)).length = 1 := by
  have hlt : s.digits / 10 ^ precision < 10 ^ 1 := by
    rw [Nat.div_lt_iff_lt_mul (Nat.pow_pos (by decide)), ← Nat.pow_add, Nat.add_comm]
    exact hs
  have hle := (length_digits_le_iff Nat.one_pos).2 hlt
  have hpos := List.length_pos_iff.2 (digits_ne_nil (s.digits / 10 ^ precision))
  omega

theorem joinFraction_paddedDigits (whole : Text) (n : Nat) :
    joinFraction culture whole (paddedDigits precision n) =
      whole ++ (culture.decimalSeparator ++ paddedDigits precision n) := by
  have hne : paddedDigits precision n ≠ [] := by
    rw [paddedDigits, List.leftpad, ne_eq, List.append_eq_nil_iff]
    exact fun h => digits_ne_nil n h.2
  rw [joinFraction, if_neg (by simpa using hne), List.append_assoc]

theorem withSign_inj (negative : Bool) {a b : Text}
    (h : withSign negative a = withSign negative b) : a = b := by
  cases negative
  · exact h
  · exact (List.cons.inj h).2

/-- A text without a sign begins with a digit. -/
theorem scientificText_ne_minus :
    scientificText culture precision s false ≠ scientificText culture precision t true := by
  intro h
  obtain ⟨c, rest, hc⟩ := List.exists_cons_of_ne_nil (digits_ne_nil (s.digits / 10 ^ precision))
  have hdigit : c.isDigit = true := isDigit_of_mem_digits (hc ▸ List.mem_cons_self)
  rw [scientificText, scientificText, joinFraction_paddedDigits, hc] at h
  obtain ⟨rfl, -⟩ := List.cons.inj h
  exact absurd hdigit (by decide)

theorem eq_of_scientificText_eq (hprecision : 0 < precision)
    (hs : s.digits < 10 ^ (precision + 1)) (ht : t.digits < 10 ^ (precision + 1)) {negative : Bool}
    (h : scientificText culture precision s negative =
      scientificText culture precision t negative) : s = t := by
  have hpos : 0 < 10 ^ precision := Nat.pow_pos (by decide)
  have htext := withSign_inj negative h
  rw [joinFraction_paddedDigits, joinFraction_paddedDigits,
    List.append_assoc, List.append_assoc, List.append_assoc, List.append_assoc] at htext
  obtain ⟨hwhole, hrest⟩ := List.append_inj htext (by
    rw [length_digits_div hs, length_digits_div ht])
  obtain ⟨hfraction, hexponent⟩ := List.append_inj (List.append_cancel_left hrest) (by
    rw [length_paddedDigits_eq hprecision (Nat.mod_lt _ hpos),
      length_paddedDigits_eq hprecision (Nat.mod_lt _ hpos)])
  have hdiv : s.digits / 10 ^ precision = t.digits / 10 ^ precision := by
    rw [← valueOf_digits (s.digits / _), hwhole, valueOf_digits]
  have hmod : s.digits % 10 ^ precision = t.digits % 10 ^ precision := by
    rw [← valueOf_paddedDigits precision (s.digits % _), hfraction, valueOf_paddedDigits]
  have hdigits : s.digits = t.digits := by
    rw [← Nat.div_add_mod s.digits (10 ^ precision), hdiv, hmod, Nat.div_add_mod]
  obtain ⟨n, e⟩ := s
  obtain ⟨m, f⟩ := t
  rw [show n = m from hdigits, show e = f from exponentText_inj hexponent]

theorem scientificText_inj (hprecision : 0 < precision) (hs : s.digits < 10 ^ (precision + 1))
    (ht : t.digits < 10 ^ (precision + 1)) {negative other : Bool}
    (h : scientificText culture precision s negative = scientificText culture precision t other) :
    s = t ∧ negative = other := by
  have hsign : negative = other := by
    cases negative <;> cases other
    · rfl
    · exact (scientificText_ne_minus h).elim
    · exact (scientificText_ne_minus h.symm).elim
    · rfl
  subst hsign
  exact ⟨eq_of_scientificText_eq hprecision hs ht h, rfl⟩

end Text

/-! ## The two texts -/

section Formats

variable {culture : Culture} {precision : Nat}

theorem scientific_eq (hprecision : 0 < precision) {n : Number} {x : Finite}
    (hx : n.toBinary64 = .finite x) :
    scientific culture n precision true =
      scientificText culture precision (x.magnitude.scientific precision)
        (x.negative && !x.magnitude.isZero) := by
  have hlt := x.magnitude.scientific_digits_lt precision
  have hsplit := paddedDigits_add Nat.one_pos hprecision (Nat.add_comm precision 1 ▸ hlt)
  rw [paddedDigits_one, Nat.add_comm 1] at hsplit
  have hlength : 1 = (digits ((x.magnitude.scientific precision).digits / 10 ^ precision)).length :=
    (length_digits_div hlt).symm
  simp only [scientific, hx, hsplit, scientificText]
  rw [List.take_left' hlength.symm, List.drop_left' hlength.symm]

/-- The pattern of one place, `precision` decimals and an exponent of three digits. -/
def scientificPattern (precision : Nat) : Text :=
  "0." ++ List.replicate precision '0' ++ "E+000"

/-- The tokens of that pattern. -/
def scientificTokens (precision : Nat) : List Token :=
  [.zero] ++ .point :: (List.replicate precision .zero ++ [.exponent true true 3])

theorem ofText_scientificPattern (precision : Nat) :
    Token.ofText (scientificPattern precision) = scientificTokens precision := by
  have htail : Token.ofText "E+000" = [.exponent true true 3] := by decide
  have hpattern : scientificPattern precision =
      '0' :: '.' :: (List.replicate precision '0' ++ "E+000") := rfl
  rw [hpattern, Token.ofText_zero, Token.ofText_point, Token.ofText_replicate_zero, htail]
  rfl

theorem layout_scientificTokens (precision : Nat) :
    Layout.ofTokens (scientificTokens precision) = ⟨1, 1, precision, precision, false, 0⟩ := by
  have hplace : Layout.ofTokens [.zero] = ⟨1, 1, 0, 0, false, 0⟩ := by decide
  rw [scientificTokens, layout_decimals (by decide) (by decide), hplace]

theorem scaled?_scientificTokens (precision : Nat) (n : Number) :
    scaled? (scientificTokens precision) n =
      (mantissa? n 1 precision).map fun (x, e) => (float x, e) := by
  have hexponent : (scientificTokens precision).any Token.isExponent = true := by
    simp [scientificTokens, Token.isExponent]
  have hscaled : n.scaleBy (scientificTokens precision) = n :=
    scaleBy_of_notMem (by simp [scientificTokens]) (by simp [scientificTokens]) n
  rw [scaled?, if_pos hexponent, hscaled, layout_scientificTokens]
  rfl

theorem customExponent_eq (e : Int) :
    emitFraction.customExponent true true 3 e = exponentText e 3 true := by
  unfold emitFraction.customExponent exponentText
  by_cases he : e < 0
  · rw [if_pos he, if_pos he]
    rfl
  · rw [if_neg he, if_neg he]
    rfl

theorem formatFinite_scientificPattern (culture : Culture) (precision : Nat) (n : Number) :
    formatFinite culture (scientificPattern precision) n =
      (mantissa? n 1 precision).map fun (x, e) =>
        .ok (withSign ((float x).fixed precision).negative
          (joinFraction culture ((float x).fixed precision).whole
            ((float x).fixed precision).fraction ++ exponentText e 3 true)) := by
  have hfirst : ∀ whole : Text, digitsAt 1 0 whole = whole := fun whole => by simp [digitsAt]
  have htext : ∀ (f : Fixed) (e : Int), f.whole ≠ [] → f.fraction.length ≤ precision →
      emitInteger culture ⟨1, 1, precision, precision, false, 0⟩
        ⟨padWhole 1 f.whole, trimFraction precision f.fraction, e⟩ 0
        (scientificTokens precision) =
      joinFraction culture f.whole f.fraction ++ exponentText e 3 true := by
    intro f e hwhole hfraction
    rw [padWhole_one hwhole, trimFraction_of_length_le hfraction, scientificTokens,
      emitInteger_append_point (by decide), append_pointText_append Nat.one_ne_zero hfraction]
    simp [emitInteger, emitFraction, placeText, hfirst, customExponent_eq]
  rw [formatFinite_pattern (ofText_scientificPattern precision) (by simp [scientificTokens])
    ⟨'0', _, rfl, rfl⟩, formatSection?, scaled?_scientificTokens, layout_scientificTokens,
    Option.map_map, Option.map_map]
  congr 1
  funext mantissa
  obtain ⟨x, e⟩ := mantissa
  have hwhole := whole_fixed_ne_nil (float x) precision
  have hfraction := length_fraction_fixed_le (float x) precision
  simp only [Function.comp_apply, Bool.true_and, htext _ e hwhole hfraction]

/-! ## When the two texts are the same -/

theorem sameText_iff {format other : Text} {n : Number} (hn : n.IsStored) :
    SameText culture format other n ↔ ∃ s, formatFinite culture format n = some (.ok s) ∧
      formatFinite culture other n = some (.ok s) := by
  match n with
  | integer i => rfl
  | float .nan => exact hn.elim
  | float (.infinite _) => exact hn.elim
  | float (.finite x) => rfl

theorem isFinite_of_mantissa?_eq_some {n : Number} {decimals : Nat} {m : Binary64} {e : Int}
    (h : mantissa? n 1 decimals = some (m, e)) :
    ∃ q : Finite, m = .finite q ∧ q.magnitude.scaled decimals < 10 ^ (decimals + 1) := by
  obtain ⟨-, hlength⟩ := mantissa?_fits Nat.one_pos h
  by_cases hm : (float m).IsFinite
  · obtain ⟨q, rfl⟩ := isBounded_float_iff.2 hm
    exact ⟨q, rfl, length_whole_fixed_le_one_iff.1 hlength⟩
  · rw [length_whole_of_not_isFinite hm] at hlength
    omega

/-- The sign of a mantissa is that of the number. -/
theorem negative_of_mantissa?_eq_some {n : Number} {x : Finite} (hx : n.toBinary64 = .finite x)
    (hzero : x.magnitude.isZero = false) {places decimals : Nat} {q : Finite} {e : Int}
    (h : mantissa? n places decimals = some (.finite q, e)) : q.negative = x.negative := by
  have hzero' : n.toBinary64.isZero = false := hx ▸ hzero
  obtain ⟨start, -, -, hquotient⟩ := (mantissa?_eq_some_iff hzero').1 h
  rw [hx] at hquotient
  exact negative_of_div_eq_finite (isUnsigned_powTen e) hquotient

theorem fixed_finite {q : Finite} (hprecision : 0 < precision)
    (hdigits : q.magnitude.scaled precision < 10 ^ (precision + 1)) (e : Int) :
    withSign ((float (.finite q)).fixed precision).negative
        (joinFraction culture ((float (.finite q)).fixed precision).whole
          ((float (.finite q)).fixed precision).fraction ++ exponentText e 3 true) =
      scientificText culture precision ⟨q.magnitude.scaled precision, e⟩
        (q.negative && q.magnitude.scaled precision != 0) := by
  have hsplit := paddedDigits_add Nat.one_pos hprecision (Nat.add_comm precision 1 ▸ hdigits)
  rw [paddedDigits_one] at hsplit
  simp only [fixed, Magnitude.fixed, if_neg hprecision.ne', ← hsplit, any_ne_zero_paddedDigits]
  rfl

theorem sign_eq {n : Number} {x : Finite} (hx : n.toBinary64 = .finite x) {q : Finite} {e : Int}
    (h : mantissa? n 1 precision = some (.finite q, e))
    (hdigits : q.magnitude.scaled precision = (x.magnitude.scientific precision).digits) :
    (q.negative && q.magnitude.scaled precision != 0) =
      (x.negative && !x.magnitude.isZero) := by
  cases hzero : x.magnitude.isZero with
  | true =>
      have hnone : (x.magnitude.scientific precision).digits = 0 := by
        rw [Magnitude.scientific, if_pos hzero]
      simp [hdigits, hnone]
  | false =>
      have hsome := (Magnitude.scientific_digits_pos hzero precision).ne'
      simp [hdigits, hsome, negative_of_mantissa?_eq_some hx hzero h]

/-- The search must end at the exponent of the exact expansion, and the rounded quotient must have
the digits of that expansion. -/
theorem sameText_scientific_iff (culture : Culture) (hpos : 0 < precision)
    (hprecision : precision ≤ maxPrecision) {n : Number} (hn : n.IsStored) {x : Finite}
    (hx : n.toBinary64 = .finite x) :
    SameText culture ('E' :: digits precision) (scientificPattern precision) n ↔
      ∃ q : Finite,
        mantissa? n 1 precision = some (.finite q, (x.magnitude.scientific precision).exponent) ∧
        q.magnitude.scaled precision = (x.magnitude.scientific precision).digits := by
  have hdigits := x.magnitude.scientific_digits_lt precision
  have hstandard : formatFinite culture ('E' :: digits precision) n =
      some (.ok (scientific culture n precision true)) := formatFinite_standard hprecision rfl _ _
  rw [sameText_iff hn, hstandard, formatFinite_scientificPattern, scientific_eq hpos hx]
  constructor
  · rintro ⟨s, hs, hpattern⟩
    obtain rfl := Except.ok.inj (Option.some.inj hs)
    obtain ⟨⟨m, e⟩, hmantissa, htext⟩ := Option.map_eq_some_iff.1 hpattern
    obtain ⟨q, rfl, hlt⟩ := isFinite_of_mantissa?_eq_some hmantissa
    have htext' := (fixed_finite hpos hlt e).symm.trans (Except.ok.inj htext)
    obtain ⟨hrow, -⟩ := scientificText_inj hpos hlt hdigits htext'
    rw [← hrow]
    exact ⟨q, hmantissa, rfl⟩
  · rintro ⟨q, hmantissa, hrow⟩
    have hlt : q.magnitude.scaled precision < 10 ^ (precision + 1) := hrow ▸ hdigits
    refine ⟨_, rfl, ?_⟩
    rw [hmantissa, Option.map_some]
    dsimp only
    rw [fixed_finite hpos hlt, sign_eq hx hmantissa hrow, hrow]

/-- The power of ten of so small an exponent is zero, and no quotient by zero is a mantissa. -/
theorem not_sameText_scientific (culture : Culture) (hpos : 0 < precision)
    (hprecision : precision ≤ maxPrecision) {n : Number} (hn : n.IsStored) {x : Finite}
    (hx : n.toBinary64 = .finite x) (hsmall : (x.magnitude.scientific precision).exponent < -308) :
    ¬SameText culture ('E' :: digits precision) (scientificPattern precision) n := by
  rw [sameText_scientific_iff culture hpos hprecision hn hx]
  rintro ⟨q, hmantissa, -⟩
  have hzero : x.magnitude.isZero = false := by
    by_contra hzero
    rw [Magnitude.scientific, if_pos (by simpa using hzero)] at hsmall
    exact absurd hsmall (by decide)
  have hzero' : n.toBinary64.isZero = false := hx ▸ hzero
  obtain ⟨start, -, -, hquotient⟩ := (mantissa?_eq_some_iff hzero').1 hmantissa
  rw [hx, div_powTen_eq_infinite hzero hsmall] at hquotient
  cases hquotient

end Formats

/-- `E` and the pattern that spells it out give the same text exactly if the search ends at the
exponent of the exact expansion with its digits. This is so for zero, and from `10 ^ -308` on for
every number that is not next to a tie of two rows of digits, unless the rounded logarithm exceeds
that exponent. It does so only for numbers next to a power of ten that do not round up to it. The
texts are not the same when the exponent is below -308. -/
theorem sameText_scientific (culture : Culture) {precision : Nat} (hpos : 1 ≤ precision)
    (hprecision : precision ≤ 99) {n : Number} (hn : n.IsStored) {x : Finite}
    (hx : n.toBinary64 = .finite x) :
    (SameText culture ('E' :: digits precision) (scientificPattern precision) n ↔
      ∃ q : Finite,
        mantissa? n 1 precision = some (.finite q, (x.magnitude.scientific precision).exponent) ∧
        q.magnitude.scaled precision = (x.magnitude.scientific precision).digits) ∧
    (x.magnitude.isZero = true →
      SameText culture ('E' :: digits precision) (scientificPattern precision) n) ∧
    (x.magnitude.isZero = false → -308 ≤ (x.magnitude.scientific precision).exponent →
      ¬IsNearTie x.magnitude precision →
        (SameText culture ('E' :: digits precision) (scientificPattern precision) n ↔
          x.magnitude.logFloor ≤ (x.magnitude.scientific precision).exponent)) ∧
    (x.magnitude.isZero = false →
      (x.magnitude.scientific precision).exponent < x.magnitude.logFloor →
        10 ^ (precision + 1) * (1 - logarithmLoss x.magnitude.decade) ≤
            x.magnitude.steps precision ∧
          x.magnitude.steps precision ≤ 10 ^ (precision + 1) - 1 / 2) ∧
    ((x.magnitude.scientific precision).exponent < -308 →
      ¬SameText culture ('E' :: digits precision) (scientificPattern precision) n) := by
  have hiff := sameText_scientific_iff culture hpos hprecision hn hx
  refine ⟨hiff, fun hzero => hiff.2 ?_, fun hzero hlow htie => ?_, ?_, ?_⟩
  · have hnone : x.magnitude.scientific precision = ⟨0, 0⟩ := by
      rw [Magnitude.scientific, if_pos hzero]
    have hzero' : n.toBinary64.isZero = true := hx ▸ hzero
    refine ⟨⟨false, .zero⟩, ?_, ?_⟩
    · rw [mantissa?_of_isZero hzero', hnone]
      rfl
    · rw [hnone]
      exact scaled_zero precision
  · exact hiff.trans (mantissa?_eq_scientific_iff hx hzero hlow htie)
  · exact fun hzero hlog => steps_bounds_of_exponent_lt hzero hlog
  · exact not_sameText_scientific culture hpos hprecision hn hx

/-- A whole number with sixteen digits shown. In its decade one rounding is allowed for, which does
not reach the next tie. -/
theorem sameText_scientific_integer :
    1 ≤ 15 ∧ 15 ≤ 99 ∧ (integer 12345).IsStored ∧
      Number.format .enUS "E15" (integer 12345) = some (.ok "1.234500000000000E+004") ∧
      Number.format .enUS "0.000000000000000E+000" (integer 12345) =
        some (.ok "1.234500000000000E+004") := by
  have hstored : (integer 12345).IsStored := (by decide : IsWide 12345)
  have hstandard : Number.format .enUS "E15" (integer 12345) =
      some (.ok "1.234500000000000E+004") := by decide +kernel
  obtain ⟨m, hunits, hfinite⟩ := ofInt_natCast (by decide : 12345 ≤ 2 ^ 53)
  have hzero : m.isZero = false := Magnitude.isZero_of_units_of_pos hunits (by decide)
  have hdecade : m.decade = 4 := Magnitude.decade_of_units hunits (by decide)
  have hsteps : m.steps 15 = (1234500000000000 : Nat) := by
    rw [Magnitude.steps, Magnitude.value_of_units hunits, hdecade]
    norm_num
  have hexponent : -308 ≤ (m.scientific 15).exponent :=
    le_trans (by rw [hdecade]; decide) (decade_le_exponent hzero)
  have htie : ¬IsNearTie m 15 := by
    apply not_isNearTie_of_steps_eq hsteps
    rw [hdecade, tolerance, show quotientRoundings 4 = 1 from rfl]
    norm_num [relativeError, roundoff]
  obtain ⟨-, -, hiff, hbounds, -⟩ := sameText_scientific .enUS (by decide : 1 ≤ 15) (by decide)
    hstored (show (integer 12345).toBinary64 = .finite ⟨false, m⟩ from hfinite)
  have hlog : m.logFloor ≤ (m.scientific 15).exponent := by
    by_contra hlt
    obtain ⟨hclose, -⟩ := hbounds hzero (not_le.1 hlt)
    rw [show (Finite.mk false m).magnitude = m from rfl, hsteps, hdecade] at hclose
    norm_num [logarithmLoss, roundoff] at hclose
  obtain ⟨s, hformat, hpattern⟩ := (hiff hzero hexponent htie).2 hlog
  obtain rfl := Except.ok.inj (Option.some.inj (hstandard.symm.trans hformat))
  exact ⟨by decide, by decide, hstored, hstandard, hpattern⟩

/-- The least positive number. -/
def least : Finite := ⟨false, 1, by decide +kernel, by decide +kernel⟩

/-- The least positive number has the exponent -324, but no power of ten below `10 ^ -308` is more
than zero. -/
theorem format_least_ne :
    ofRatio false 5 (10 ^ 324) = .finite least ∧
      Number.format .invariant "E1" (float (.finite least)) = some (.ok "4.9E-324") ∧
      Number.format .invariant "0.0E+000" (float (.finite least)) = some (.ok "0.0E-308") := by
  have hround : ofRatio false 5 (10 ^ 324) = .finite least := by decide +kernel
  have hstandard : Number.format .invariant "E1" (float (.finite least)) =
      some (.ok "4.9E-324") := by decide +kernel
  have hlog : least.magnitude.logFloor = -324 := by decide +kernel
  have hfixed : (float ((Binary64.finite least).div (powTen (-308)))).fixed 1 =
      ⟨false, "0", "0"⟩ := by decide +kernel
  have hlast : Fits (.finite least) 1 1 (-308) := by
    rw [Fits, hfixed]
    decide
  have hmantissa : mantissa? (float (.finite least)) 1 1 =
      some ((Binary64.finite least).div (powTen (-308)), -308) := by
    rw [mantissa?_eq_some_iff rfl]
    refine ⟨-324, ?_, ?_, rfl⟩
    · exact hlog ▸ firstExponent?_one least
    · rw [toBinary64, fittingExponent?_of_le rfl (by decide) 1 (by decide), fittingExponent?,
        if_pos hlast]
  refine ⟨hround, hstandard, ?_⟩
  have hformat := formatFinite_scientificPattern .invariant 1 (float (.finite least))
  rw [hmantissa, Option.map_some] at hformat
  dsimp only at hformat
  rw [hfixed] at hformat
  exact hformat

end Phrasebook.Number
