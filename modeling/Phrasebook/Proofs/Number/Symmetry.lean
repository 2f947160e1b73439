import Phrasebook.Proofs.Number.Characters
import Phrasebook.Proofs.Number.General
import Phrasebook.Proofs.Number.Sign

/-!
# Opposite numbers

A negative number is written as its opposite with a minus sign in front, and without one if it
rounds to zero. The law has one gap. A section with an exponent divides by a power of ten, and where
both are infinite the quotient is not a number, which has no sign.
-/

namespace Phrasebook.Number

open Binary64

attribute [local irreducible] ofUnits unitsOfOne unitLimit

/-! ## Rounding to zero -/

/-- Whether zero is a nearest number of so many decimals. -/
def RoundsToZero (n : Number) (decimals : Nat) : Prop :=
  match n with
  | integer i => i = 0
  | float (.finite x) => 2 * (x.magnitude.value * 10 ^ decimals) ≤ 1
  | float _ => False

theorem roundHalfEven_eq_zero_iff {n d : Nat} (hd : 0 < d) : roundHalfEven n d = 0 ↔ 2 * n ≤ d := by
  constructor
  · intro h
    have hupper := two_mul_le_roundHalfEven_mul n hd
    rw [h] at hupper
    omega
  · intro h
    rcases Nat.lt_or_eq_of_le h with hlt | htie
    · exact roundHalfEven_eq_zero hlt
    · exact (roundHalfEven_tie hd (k := 0) (by omega)).trans rfl

theorem roundsToZero_iff {x : Finite} {decimals : Nat} :
    (float (.finite x)).RoundsToZero decimals ↔ x.magnitude.scaled decimals = 0 := by
  rw [Magnitude.scaled, roundHalfEven_eq_zero_iff unitsOfOne_pos, RoundsToZero, Magnitude.value,
    div_mul_eq_mul_div, mul_div_assoc', div_le_one unitsOfOne_cast_pos]
  exact_mod_cast Iff.rfl

/-- The opposite of a number that is not negative has a sign, unless it rounds to zero or is not a
number. -/
theorem negative_neg_fixed {m : Number} (hm : m.isNegative = false) (decimals : Nat) :
    (m.neg.fixed decimals).negative = true ↔ m ≠ float .nan ∧ ¬m.RoundsToZero decimals := by
  match m with
  | integer i =>
      have hi : 0 ≤ i := not_lt.1 (of_decide_eq_false hm)
      simp only [neg, fixed, RoundsToZero, decide_eq_true_iff, ne_eq, reduceCtorEq,
        not_false_eq_true, true_and]
      omega
  | float .nan => simp [neg, Binary64.neg, fixed]
  | float (.infinite s) =>
      obtain rfl : s = false := hm
      simp [neg, Binary64.neg, fixed, RoundsToZero]
  | float (.finite x) =>
      simp only [roundsToZero_iff, neg, Binary64.neg, fixed, any_ne_zero_fixed, Bool.and_eq_true,
        Bool.not_eq_true', bne_iff_ne, ne_eq, float.injEq, reduceCtorEq, not_false_eq_true,
        true_and, and_iff_right_iff_imp]
      intro hne
      refine (isNegative_finite.1 hm).resolve_right fun hzero => hne ?_
      rw [Magnitude.scaled, beq_iff_eq.1 hzero, Nat.zero_mul]
      exact roundHalfEven_eq_zero unitsOfOne_pos

/-! ## Sections -/

/-- Whether a section divides an infinite number by an infinite power of ten: an exponent is asked
for, three letters fit the places, and the search begins at the greatest exponents. -/
def IsIndefinite (ts : List Token) (n : Number) : Prop :=
  ts.any Token.isExponent = true ∧ 3 ≤ (Layout.ofTokens ts).places ∧ ¬(n.scaleBy ts).IsFinite ∧
    ∃ start, firstExponent? (.infinite false) (Layout.ofTokens ts).places = some start ∧ 309 ≤ start

/-- An infinite number is divided by the first power of ten, as its quotients all have three
letters. -/
theorem mantissa?_infinite {n : Number} {negative : Bool} (hn : n.toBinary64 = .infinite negative)
    {places decimals : Nat} {m : Binary64} {e : Int} :
    mantissa? n places decimals = some (m, e) ↔
      3 ≤ places ∧ firstExponent? (.infinite false) places = some e ∧
        m = (Binary64.infinite negative).div (powTen e) := by
  have hzero : n.toBinary64.isZero = false := by rw [hn]; rfl
  have hfirst : firstExponent? (.infinite negative) places =
      firstExponent? (.infinite false) places := rfl
  rw [mantissa?_eq_some_iff hzero, hn, hfirst]
  constructor
  · rintro ⟨start, hstart, hexponent, rfl⟩
    have hplaces := fits_infinite_iff.1 ((fittingExponent?_spec _ _ _ _).1 _ hexponent).1
    rw [fittingExponent?, if_pos (fits_infinite_iff.2 hplaces)] at hexponent
    obtain rfl := Option.some.inj hexponent
    exact ⟨hplaces, hstart, rfl⟩
  · rintro ⟨hplaces, hstart, rfl⟩
    exact ⟨e, hstart, by rw [fittingExponent?, if_pos (fits_infinite_iff.2 hplaces)], rfl⟩

theorem powTen_eq_infinite_iff {e : Int} : powTen e = .infinite false ↔ 309 ≤ e := by
  constructor
  · intro h
    by_contra hlt
    rcases lt_or_ge e (-308) with hsmall | hlow
    · rw [powTen_eq_zero hsmall] at h
      cases h
    · obtain ⟨m, hfinite, -⟩ := half_le_powTen hlow (by omega)
      rw [hfinite] at h
      cases h
  · exact powTen_eq_infinite_of_le

theorem finite_div_powTen_ne_nan {x : Finite} (hzero : x.magnitude.isZero = false) (e : Int) :
    (Binary64.finite x).div (powTen e) ≠ .nan := by
  match hpower : powTen e with
  | .nan => exact (powTen_ne_nan e hpower).elim
  | .infinite _ => simp [div]
  | .finite y =>
      rw [div]
      split
      · simp [hzero]
      · exact ofUnits_ne_nan _ _ _

theorem infinite_div_powTen_eq_nan_iff {negative : Bool} {e : Int} :
    (Binary64.infinite negative).div (powTen e) = .nan ↔ powTen e = .infinite false := by
  have hsign := isUnsigned_powTen e
  match hpower : powTen e with
  | .nan => exact (powTen_ne_nan e hpower).elim
  | .infinite s =>
      rw [hpower] at hsign
      obtain rfl : s = false := hsign
      simp [div]
  | .finite y => simp [div]

/-- A section lays out what is not a number exactly if it divides infinity by infinity. -/
theorem eq_nan_of_scaled?_iff {ts : List Token} {n m : Number} (hn : n.IsBounded) {e : Int}
    (h : scaled? ts n = some (m, e)) : m = float .nan ↔ IsIndefinite ts n := by
  have hnan := scaledNumber_ne_nan ts (toBinary64_ne_nan hn.isFinite)
  have hfinite : (scaledNumber ts n).IsBounded ↔ (n.scaleBy ts).IsFinite :=
    isBounded_scaledNumber_iff hn
  unfold IsIndefinite
  obtain ⟨hexponent, rfl, -⟩ | ⟨hexponent, x, rfl, hmantissa⟩ := scaled?_cases h
  · refine iff_of_false (fun heq => hnan ?_) (by simp [hexponent])
    exact congrArg toBinary64 heq
  · rw [float.injEq, ← hfinite]
    cases hscaled : (scaledNumber ts n).toBinary64 with
    | nan => exact (hnan hscaled).elim
    | infinite negative =>
        obtain ⟨hplaces, hstart, rfl⟩ := (mantissa?_infinite hscaled).1 hmantissa
        have hmax : max (Layout.ofTokens ts).places 1 = (Layout.ofTokens ts).places := by omega
        rw [hmax] at hplaces hstart
        rw [infinite_div_powTen_eq_nan_iff, powTen_eq_infinite_iff]
        simp [hexponent, hstart, hplaces, IsBounded, hscaled]
    | finite y =>
        refine iff_of_false (fun heq => ?_) (by simp [IsBounded, hscaled])
        cases hzero : (scaledNumber ts n).toBinary64.isZero with
        | true =>
            rw [mantissa?_of_isZero hzero, heq] at hmantissa
            cases hmantissa
        | false =>
            obtain ⟨start, -, -, rfl⟩ := (mantissa?_eq_some_iff hzero).1 hmantissa
            rw [hscaled] at hzero heq
            exact finite_div_powTen_ne_nan hzero _ heq

/-- A section writes the opposite number with a sign or with none. -/
theorem neg_formatSection? (culture : Culture) (ts : List Token) {n m : Number}
    (hne : n ≠ integer 0) (hn : n.isNegative = false) {e : Int}
    (hscaled : scaled? ts n = some (m, e)) :
    formatSection? culture ts n.neg true =
      (formatSection? culture ts n true).map
        (withSign (m.neg.fixed (Layout.ofTokens ts).maxFraction).negative) := by
  have hm := isNegative_of_scaled? hn hscaled
  have hsign := negative_fixed hm (Layout.ofTokens ts).maxFraction
  obtain ⟨hwhole, hfraction⟩ := neg_fixed m (Layout.ofTokens ts).maxFraction
  rcases neg_scaled? hne ts with hneg | ⟨hneg, hzero⟩
  · rw [formatSection?, formatSection?, hneg, hscaled]
    simp only [Option.map_some, Prod.map_apply, id_eq, hwhole, hfraction, hsign, Bool.true_and]
    rfl
  · rw [hzero] at hscaled
    obtain ⟨rfl, rfl⟩ := Prod.mk.inj (Option.some.inj hscaled)
    have hround : (float Binary64.zero).RoundsToZero (Layout.ofTokens ts).maxFraction :=
      roundsToZero_iff.2 (scaled_zero _)
    have hnone :
        ((float Binary64.zero).neg.fixed (Layout.ofTokens ts).maxFraction).negative = false := by
      rw [← Bool.not_eq_true, negative_neg_fixed rfl]
      exact fun h => h.2 hround
    rw [formatSection?, formatSection?, hneg, hzero, hnone]
    rfl

/-! ## Standard formats -/

/-- Whether the opposite of the number that is laid out has a sign. Where none is laid out, the sign
is that of the number itself. -/
def oppositeSign (laidOut : Option Number) (decimals : Nat) : Bool :=
  (laidOut.map fun m => (m.neg.fixed decimals).negative).getD true

section Standard

variable {n : Number}

theorem ne_zero_of_isZero (hzero : n.isZero = false) : n ≠ integer 0 := by
  rintro rfl
  cases hzero

theorem neg_toBinary64_finite (hne : n ≠ integer 0) {m : Magnitude}
    (hx : n.toBinary64 = .finite ⟨false, m⟩) : n.neg.toBinary64 = .finite ⟨true, m⟩ := by
  rw [neg_toBinary64 hne, hx]
  rfl

theorem neg_generalFinite (culture : Culture) {m : Magnitude} (hm : m.isZero = false)
    (precision : Option Nat) (upper : Bool) :
    generalFinite culture ⟨true, m⟩ precision upper =
      '-' :: generalFinite culture ⟨false, m⟩ precision upper := by
  simp [generalFinite, hm, withSign]

theorem neg_general (culture : Culture) (hn : n.isNegative = false) (hne : n ≠ integer 0)
    {m : Magnitude} (hx : n.toBinary64 = .finite ⟨false, m⟩) (hm : m.isZero = false)
    (precision : Option Nat) (upper : Bool) :
    general culture n.neg precision upper = '-' :: general culture n precision upper := by
  cases precision with
  | some precision =>
      rw [general_of_finite hx, general_of_finite (neg_toBinary64_finite hne hx),
        neg_generalFinite culture hm]
  | none =>
      cases n with
      | integer i =>
          have hi : 0 ≤ i := not_lt.1 (of_decide_eq_false hn)
          have hpos : i ≠ 0 := fun hzero => hne (congrArg integer hzero)
          have hneg : -i < 0 := by omega
          simp only [neg, general, integerText, hneg, if_true, hi.not_gt, if_false, Int.natAbs_neg]
      | float x =>
          obtain rfl : x = .finite ⟨false, m⟩ := hx
          exact neg_generalFinite culture hm none upper

theorem neg_scientific (culture : Culture) (hne : n ≠ integer 0)
    {m : Magnitude} (hx : n.toBinary64 = .finite ⟨false, m⟩) (hm : m.isZero = false)
    (precision : Nat) (upper : Bool) :
    scientific culture n.neg precision upper = '-' :: scientific culture n precision upper := by
  simp [scientific, hx, neg_toBinary64_finite hne hx, hm, withSign]

theorem withSign_neg_fixed {m : Number} (hm : m.isNegative = false) (decimals : Nat)
    (body : Text → Text → Text) :
    withSign (m.neg.fixed decimals).negative
        (body (m.neg.fixed decimals).whole (m.neg.fixed decimals).fraction) =
      withSign (m.neg.fixed decimals).negative (withSign (m.fixed decimals).negative
        (body (m.fixed decimals).whole (m.fixed decimals).fraction)) := by
  obtain ⟨hwhole, hfraction⟩ := neg_fixed m decimals
  rw [hwhole, hfraction, negative_fixed hm]
  rfl

theorem neg_standard (culture : Culture) (hn : n.IsStored) (hsign : n.isNegative = false)
    (hzero : n.isZero = false) {letter : Char} (hletter : letter.toUpper ≠ 'X')
    (precision : Option Nat) :
    standard culture n.neg letter precision = (standard culture n letter precision).map
      (withSign (oppositeSign
        (if letter.toUpper = 'P' then some (n.scale 100)
          else if letter.toUpper ∈ ("CFN" : Text) then some n else none) (precision.getD 2))) := by
  have hne := ne_zero_of_isZero hzero
  obtain ⟨⟨negative, m⟩, hx, hm, hnegative⟩ := exists_toBinary64_eq hn hzero
  obtain rfl : negative = false := hnegative.trans hsign
  unfold standard
  generalize letter.toUpper = c at hletter ⊢
  split
  · exact congrArg Except.ok (withSign_neg_fixed hsign _ fun whole fraction =>
      Text.replaceFirst 'n' (joinFraction culture (group culture.groupSeparator whole) fraction)
        culture.currency)
  · next j hj =>
      cases n with
      | float x => cases hj
      | integer i =>
          obtain rfl : -i = j := integer.inj hj
          have hi : 0 ≤ i := not_lt.1 (of_decide_eq_false hsign)
          have hpos : i ≠ 0 := fun hzero => hne (congrArg integer hzero)
          have hneg : decide (-i < 0) = true := decide_eq_true (by omega)
          have hsign' : decide (i < 0) = false := hsign
          simp only [hneg, hsign', Int.natAbs_neg]
          rfl
  · next y hy =>
      cases n with
      | integer i => cases hy
      | float x => rfl
  · exact congrArg Except.ok (neg_scientific culture hne hx hm _ _)
  · exact congrArg Except.ok (withSign_neg_fixed hsign _ (joinFraction culture))
  · exact congrArg Except.ok (neg_general culture hsign hne hx hm _ _)
  · exact congrArg Except.ok (neg_general culture hsign hne hx hm _ _)
  · exact congrArg Except.ok (withSign_neg_fixed hsign _ fun whole fraction =>
      joinFraction culture (group culture.groupSeparator whole) fraction)
  · have hscale : n.neg.scale 100 = (n.scale 100).neg := neg_scale n (by decide : 5 ∣ 100)
    simp only [hscale]
    have hproduct := isNegative_scale hsign 100
    exact congrArg Except.ok (withSign_neg_fixed hproduct _ fun whole fraction =>
      Text.replaceFirst 'n' (joinFraction culture (group culture.groupSeparator whole) fraction)
        culture.percent)
  · exact (hletter rfl).elim
  · exact (hletter rfl).elim
  · next c _ _ hC hE hF hG hR hN hP hDinteger hDfloat _ _ =>
      have hD : c ≠ 'D' := by
        intro hc
        cases hm : n.neg with
        | integer i => exact hDinteger i hc hm
        | float x => exact hDfloat x hc hm
      generalize oppositeSign _ _ = sign
      split
      all_goals first | rfl | contradiction

end Standard

/-! ## All formats -/

/-- The count of decimals to which a format rounds the number that it lays out. -/
def decimals (format : Text) (n : Number) : Nat :=
  match standard? format with
  | some (_, precision) => if precision.isEmpty then 2 else valueOf precision
  | none => (Layout.ofTokens (choose format n).tokens).maxFraction

/-- Whether a format rounds a number to zero. -/
def RoundsToZeroIn (format : Text) (n : Number) : Prop :=
  ∃ m, laidOut? format n = some m ∧ m.RoundsToZero (decimals format n)

/-- Whether a format shows the sign of a negative number itself: it does not write the number modulo
a power of two, and has no sections. -/
def IsSigned (format : Text) : Prop :=
  match standard? format with
  | some (letter, _) => letter.toUpper ≠ 'X'
  | none => Token.semicolon ∉ Token.ofText format

section Formats

variable {format : Text} {n : Number}

theorem getD_precision? {s : Text} {precision : Option Nat} (h : precision? s = .ok precision) :
    precision.getD 2 = if s.isEmpty then 2 else valueOf s := by
  unfold precision? at h
  split_ifs at h with hempty hgreat
  · obtain rfl := Except.ok.inj h
    rw [if_pos hempty]
    rfl
  · obtain rfl := Except.ok.inj h
    rw [if_neg hempty]
    rfl

theorem isNegative_of_laidOut? (hn : n.isNegative = false) {m : Number}
    (h : laidOut? format n = some m) : m.isNegative = false := by
  unfold laidOut? at h
  split at h
  · split_ifs at h
    · obtain rfl := Option.some.inj h
      exact isNegative_scale hn 100
    · obtain rfl := Option.some.inj h
      exact hn
  · obtain ⟨⟨m, e⟩, hscaled, rfl⟩ := Option.map_eq_some_iff.1 h
    have hchoice : (choose format n).number.isNegative = false := by
      simp only [choose, hn, Bool.false_eq_true, false_and, if_false]
      split_ifs <;> exact hn
    exact isNegative_of_scaled? hchoice hscaled

/-- A sign is missing exactly from what rounds to zero and from what is not a number. -/
theorem oppositeSign_laidOut? (hn : n.isNegative = false) :
    oppositeSign (laidOut? format n) (decimals format n) = true ↔
      laidOut? format n ≠ some (float .nan) ∧ ¬RoundsToZeroIn format n := by
  unfold oppositeSign RoundsToZeroIn
  cases hlaidOut : laidOut? format n with
  | none => simp
  | some m =>
      have hiff := negative_neg_fixed (isNegative_of_laidOut? hn hlaidOut) (decimals format n)
      simpa using hiff

theorem neg_formatFinite (culture : Culture) (hn : n.IsStored) (hsign : n.isNegative = false)
    (hzero : n.isZero = false) (hformat : IsSigned format) :
    formatFinite culture format n.neg = (formatFinite culture format n).map
      (Except.map (withSign (oppositeSign (laidOut? format n) (decimals format n)))) := by
  unfold formatFinite
  unfold IsSigned at hformat
  cases hread : standard? format with
  | some read =>
      obtain ⟨letter, precision⟩ := read
      simp only [hread] at hformat
      simp only [Option.map_some, Option.some.injEq, formatStandard, laidOut?, decimals, hread]
      cases hprecision : precision? precision with
      | error fault => rfl
      | ok given =>
          rw [← getD_precision? hprecision]
          exact neg_standard culture hn hsign hzero hformat given
  | none =>
      simp only [hread] at hformat
      simp only [custom?, laidOut?, decimals, hread, choose_of_notMem hformat]
      cases hscaled : scaled? (Token.ofText format) n with
      | none =>
          have hneg : scaled? (Token.ofText format) n.neg = none := by
            have hne := ne_zero_of_isZero hzero
            rcases neg_scaled? hne (Token.ofText format) with hneg | ⟨-, hsome⟩
            · rw [hneg, hscaled]
              rfl
            · rw [hscaled] at hsome
              cases hsome
          simp only [formatSection?, hneg, hscaled, Option.map_none]
      | some result =>
          obtain ⟨m, e⟩ := result
          rw [neg_formatSection? culture _ (ne_zero_of_isZero hzero) hsign hscaled, Option.map_map,
            Option.map_map]
          rfl

theorem neg_format (culture : Culture) (hn : n.IsStored) (hsign : n.isNegative = false)
    (hzero : n.isZero = false) (hformat : IsSigned format) :
    Number.format culture format n.neg = (Number.format culture format n).map
      (Except.map (withSign (oppositeSign (laidOut? format n) (decimals format n)))) := by
  have hneg : n.neg.IsFinite := by
    match n with
    | integer i => trivial
    | float .nan => exact hn.elim
    | float (.infinite _) => exact hn.elim
    | float (.finite _) => trivial
  rw [hneg.format_eq, hn.isBounded.isFinite.format_eq]
  exact neg_formatFinite culture hn hsign hzero hformat

/-- Only a section divides a number by a power of ten. -/
theorem laidOut?_eq_nan_iff {culture : Culture} (hformat : IsSigned format) (hn : n.IsStored)
    {s : Text} (hs : Number.format culture format n = some (.ok s)) :
    laidOut? format n = some (float .nan) ↔
      standard? format = none ∧ IsIndefinite (Token.ofText format) n := by
  rw [hn.isBounded.isFinite.format_eq, formatFinite] at hs
  unfold laidOut?
  unfold IsSigned at hformat
  cases hread : standard? format with
  | some read =>
      obtain ⟨letter, precision⟩ := read
      have hscale : n.scale 100 ≠ float .nan := fun heq =>
        scale_ne_nan (toBinary64_ne_nan hn.isBounded.isFinite) (by decide : 0 < 100) (by decide)
          (congrArg toBinary64 heq)
      have hsame : n ≠ float .nan := by
        rintro rfl
        exact hn
      simp only [reduceCtorEq, false_and, iff_false]
      split_ifs <;> simp [hscale, hsame]
  | none =>
      simp only [hread] at hformat hs
      obtain ⟨text, hcustom, -⟩ := Option.map_eq_some_iff.1 hs
      obtain ⟨m, e, hscaled⟩ := exists_scaled?_of_custom? hcustom
      rw [choose_of_notMem hformat] at hscaled ⊢
      simp only [hscaled, Option.map_some, Option.some.injEq, true_and]
      exact eq_nan_of_scaled?_iff hn.isBounded hscaled

end Formats

/-- A negative number is written as its opposite with a minus sign in front, or without one if the
opposite rounds to zero, unless the format divides infinity by infinity: what is not a number has no
sign. Only a section with an exponent and at least three places does so, to a number that its
percent or per mille tokens take out of the finite numbers. -/
theorem format_neg_iff (culture : Culture) {format : Text} (hformat : IsSigned format) {n : Number}
    (hn : n.IsStored) (hsign : n.isNegative = false) (hzero : n.isZero = false) {s : Text}
    (hs : Number.format culture format n = some (.ok s)) :
    ((RoundsToZeroIn format n → Number.format culture format n.neg = some (.ok s)) ∧
        (¬RoundsToZeroIn format n → Number.format culture format n.neg = some (.ok ('-' :: s))) ↔
      laidOut? format n ≠ some (float .nan)) ∧
    (laidOut? format n = some (float .nan) → Number.format culture format n.neg = some (.ok s)) ∧
    (laidOut? format n = some (float .nan) ↔
      standard? format = none ∧ IsIndefinite (Token.ofText format) n) ∧
    (∀ letter precision, standard? format = some (letter, precision) → RoundsToZeroIn format n →
      letter.toUpper ∈ ("CFNP" : Text)) ∧
    (∀ places, 3 ≤ places → places ≤ 2 ^ 31 - 323 →
      ∃ start, firstExponent? (.infinite false) places = some start ∧ 309 ≤ start) := by
  have hneg := neg_format culture hn hsign hzero hformat
  rw [hs, Option.map_some, Except.map] at hneg
  have hshown : oppositeSign (laidOut? format n) (decimals format n) = true ↔
      laidOut? format n ≠ some (float .nan) ∧ ¬RoundsToZeroIn format n :=
    oppositeSign_laidOut? hsign
  generalize oppositeSign (laidOut? format n) (decimals format n) = sign at hneg hshown
  have hbare : ¬(laidOut? format n ≠ some (float .nan) ∧ ¬RoundsToZeroIn format n) →
      Number.format culture format n.neg = some (.ok s) := by
    intro hnot
    have hnone : sign = false := by
      rw [← Bool.not_eq_true, hshown]
      exact hnot
    rw [hneg, hnone]
    rfl
  refine ⟨⟨fun ⟨hsame, hminus⟩ hnan => ?_, fun hnan => ⟨fun hround => ?_, fun hround => ?_⟩⟩,
    fun hnan => ?_, ?_, fun letter precision hread hround => ?_, fun places hthree hplaces => ?_⟩
  · have hround : ¬RoundsToZeroIn format n := by
      rintro ⟨m, hm, hround⟩
      obtain rfl := Option.some.inj (hnan.symm.trans hm)
      exact hround
    have htext := (hbare fun h => h.1 hnan).symm.trans (hminus hround)
    have hlength := congrArg List.length (Except.ok.inj (Option.some.inj htext))
    simp at hlength
  · exact hbare fun h => h.2 hround
  · rw [hneg, hshown.2 ⟨hnan, hround⟩]
    rfl
  · exact hbare fun h => h.1 hnan
  · exact laidOut?_eq_nan_iff hformat hn hs
  · obtain ⟨m, hm, -⟩ := hround
    simp only [laidOut?, hread] at hm
    split_ifs at hm with hpercent hletter
    · rw [hpercent]
      decide
    · exact List.mem_append_left "P" hletter
  · refine ⟨_, firstExponent?_eq_some _ (by omega) hplaces, ?_⟩
    simp only [logFloor, maxExponent]
    omega

/-- The least positive number rounds to zero; an integer is grouped and multiplied exactly. -/
theorem format_neg_iff_least :
    (∃ x : Finite, x.negative = false ∧ x.magnitude.units = 1 ∧ IsSigned "F2" ∧
      (float (.finite x)).IsStored ∧ (float (.finite x)).isNegative = false ∧
      (float (.finite x)).isZero = false ∧
      Number.format .invariant "F2" (float (.finite x)) = some (.ok "0.00") ∧
      RoundsToZeroIn "F2" (float (.finite x)) ∧
      Number.format .invariant "F2" (float (.finite x)).neg = some (.ok "0.00")) ∧
    IsSigned "#,##0.0%" ∧ (integer 1234567).IsStored ∧ (integer 1234567).isNegative = false ∧
      (integer 1234567).isZero = false ∧
      Number.format .de "#,##0.0%" (integer 1234567) = some (.ok "123.456.700,0%") ∧
      Number.format .de "#,##0.0%" (integer (-1234567)) = some (.ok "-123.456.700,0%") := by
  refine ⟨?_, ?_⟩
  · have hlimit : 1 < unitLimit :=
      Nat.lt_of_le_of_lt (Nat.mul_pos unitsOfOne_pos (Nat.two_pow_pos 0))
        (unitsOfOne_mul_two_pow_lt (by decide))
    obtain ⟨x, hx, hunits⟩ : ∃ x : Finite, x.negative = false ∧ x.magnitude.units = 1 :=
      ⟨⟨false, 1, hlimit, by decide⟩, rfl, rfl⟩
    have hsigned : IsSigned "F2" := (by decide : 'F'.toUpper ≠ 'X')
    have hstored : (float (.finite x)).IsStored := trivial
    have hsign : (float (.finite x)).isNegative = false := isNegative_finite.2 (.inl hx)
    have hzero : (float (.finite x)).isZero = false :=
      beq_eq_false_iff_ne.2 (hunits ▸ Nat.one_ne_zero)
    have hscaled : x.magnitude.scaled 2 = 0 := by
      rw [Magnitude.scaled, hunits, roundHalfEven_eq_zero_iff unitsOfOne_pos]
      exact le_trans (by decide) two_pow_le_unitsOfOne
    have hfixed : (float (.finite x)).fixed 2 = ⟨false, "0", "00"⟩ := by
      simp only [fixed, hx, Magnitude.fixed, hscaled, Bool.false_and]
      rfl
    have htext : Number.format .invariant "F2" (float (.finite x)) = some (.ok "0.00") := by
      have hdef : Number.format .invariant "F2" (float (.finite x)) =
          some (.ok (withSign ((float (.finite x)).fixed 2).negative (joinFraction .invariant
            ((float (.finite x)).fixed 2).whole ((float (.finite x)).fixed 2).fraction))) := rfl
      rw [hdef, hfixed]
      rfl
    have hlaidOut : laidOut? "F2" (float (.finite x)) = some (float (.finite x)) := rfl
    have hround : RoundsToZeroIn "F2" (float (.finite x)) :=
      ⟨_, hlaidOut, roundsToZero_iff.2 hscaled⟩
    have hnumber : laidOut? "F2" (float (.finite x)) ≠ some (float .nan) := by
      rw [hlaidOut]
      simp
    have hlaw := (format_neg_iff .invariant hsigned hstored hsign hzero htext).1.2 hnumber
    exact ⟨x, hx, hunits, hsigned, hstored, hsign, hzero, htext, hround, hlaw.1 hround⟩
  · have hsigned : IsSigned "#,##0.0%" :=
      (by decide : Token.semicolon ∉ Token.ofText "#,##0.0%")
    have hstored : (integer 1234567).IsStored := (by decide : IsWide 1234567)
    have htext : Number.format .de "#,##0.0%" (integer 1234567) = some (.ok "123.456.700,0%") := by
      decide
    have hlaidOut : laidOut? "#,##0.0%" (integer 1234567) = some (integer 123456700) := by decide
    have hnumber : laidOut? "#,##0.0%" (integer 1234567) ≠ some (float .nan) := by
      rw [hlaidOut]
      simp
    have hlaw := (format_neg_iff .de hsigned hstored rfl rfl htext).1.2 hnumber
    refine ⟨hsigned, hstored, rfl, rfl, htext, hlaw.2 ?_⟩
    rintro ⟨m, hm, hround⟩
    obtain rfl := Option.some.inj (hlaidOut.symm.trans hm)
    have hzero : (123456700 : Int) = 0 := hround
    exact absurd hzero (by decide)

/-- Three places take the letters of infinity divided by infinity, which gets no minus sign. -/
theorem format_neg_ne_minus :
    ∃ x : Finite, ofRatio false (10 ^ 308) 1 = .finite x ∧
      ¬RoundsToZeroIn "000E+0%" (float (.finite x)) ∧
      Number.format .invariant "000E+0%" (float (.finite x)) = some (.ok "NaNE+2147483645%") ∧
      Number.format .invariant "000E+0%" (float (.finite x)).neg =
        some (.ok "NaNE+2147483645%") := by
  obtain ⟨x, hx, hgreat⟩ := exists_ofRatio_ten_pow_eq_finite
  have hinfinite : (Binary64.finite x).mul (ofInt 100) = .infinite false := by
    have hhundred : (ofInt 100).AtLeast 1 := atLeast_ofUnits (by simp; omega)
    exact eq_infinite_of_atLeast (hgreat.mul hhundred) le_rfl
  have hsign : (float (.finite x)).isNegative = false := isNegative_finite.2 (.inl hgreat.1)
  have hzero : (float (.finite x)).isZero = false := not_isZero_of_le hgreat.2
  have hsigned : IsSigned "000E+0%" := (by decide : Token.semicolon ∉ Token.ofText "000E+0%")
  have hscaledNumber : scaledNumber (Token.ofText "000E+0%") (float (.finite x)) =
      float (.infinite false) := congrArg float hinfinite
  have hmantissa : mantissa? (float (.infinite false)) 3 0 = some (.nan, 2147483645) := by
    refine (mantissa?_infinite rfl).2 ⟨le_rfl, ?_, ?_⟩
    · exact firstExponent?_eq_some _ (by decide) (by decide)
    · exact (infinite_div_powTen_eq_nan_iff.2 (powTen_eq_infinite_iff.2 (by decide))).symm
  have hscaled : scaled? (Token.ofText "000E+0%") (float (.finite x)) =
      some (float .nan, 2147483645) := by
    have hdef : scaled? (Token.ofText "000E+0%") (float (.finite x)) =
        (mantissa? (scaledNumber (Token.ofText "000E+0%") (float (.finite x))) 3 0).map
          (Prod.map float id) := rfl
    rw [hdef, hscaledNumber, hmantissa]
    rfl
  have hlaidOut : laidOut? "000E+0%" (float (.finite x)) = some (float .nan) := by
    have hdef : laidOut? "000E+0%" (float (.finite x)) =
        (scaled? (choose "000E+0%" (float (.finite x))).tokens
          (choose "000E+0%" (float (.finite x))).number).map Prod.fst := rfl
    rw [hdef, choose_of_notMem hsigned, hscaled]
    rfl
  have htext : Number.format .invariant "000E+0%" (float (.finite x)) =
      some (.ok "NaNE+2147483645%") := by
    have hdef : Number.format .invariant "000E+0%" (float (.finite x)) =
        (custom? .invariant "000E+0%" (float (.finite x))).map .ok := rfl
    have hemit : emitInteger .invariant (Layout.ofTokens (Token.ofText "000E+0%"))
        ⟨"NaN", "", 2147483645⟩ 0 (Token.ofText "000E+0%") = "NaNE+2147483645%" := by decide
    rw [hdef, custom?, choose_of_notMem hsigned, formatSection?, hscaled, ← hemit]
    rfl
  have hneg := neg_format .invariant (n := float (.finite x)) trivial hsign hzero hsigned
  rw [htext, hlaidOut] at hneg
  refine ⟨x, hx, ?_, htext, hneg⟩
  rintro ⟨m, hm, hround⟩
  obtain rfl := Option.some.inj (hlaidOut.symm.trans hm)
  exact hround

end Phrasebook.Number
