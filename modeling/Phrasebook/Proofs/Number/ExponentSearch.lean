import Phrasebook.Culture.Tables
import Phrasebook.Number.Format
import Phrasebook.Proofs.Binary64.Arithmetic
import Phrasebook.Proofs.Number.Section

/-!
# The search for an exponent

A section with an exponent divides by greater and greater powers of ten until the quotient fits the
integer places. Powers of ten leave the finite numbers, and a finite number divided by an infinite
one is zero, so the search ends for every finite number. A number that the percent tokens scaled to
infinity never gets shorter than three characters.
-/

namespace Phrasebook.Number

open Binary64

attribute [local irreducible] ofUnits

/-! ## The scaled number -/

/-- Whether a number is finite. -/
def IsFinite : Number → Prop
  | integer _ => True
  | float (.finite _) => True
  | float _ => False

/-- Only what is not finite is written the same in every format. -/
theorem IsFinite.format_eq {n : Number} (hn : n.IsFinite) (culture : Culture) (format : Text) :
    Number.format culture format n = formatFinite culture format n := by
  match n with
  | integer i => rfl
  | float .nan => exact hn.elim
  | float (.infinite _) => exact hn.elim
  | float (.finite x) => rfl

/-- The number that a section lays out, before an exponent is taken out of it. -/
def scaledNumber (ts : List Token) (n : Number) : Number :=
  Nat.repeat divideByThousand (Layout.ofTokens ts).divisions (n.scaleBy ts)

theorem toBinary64_ne_nan {n : Number} (hn : n.IsFinite) : n.toBinary64 ≠ .nan := by
  match n with
  | integer i => exact ofInt_ne_nan i
  | float .nan => exact hn.elim
  | float (.infinite _) => exact hn.elim
  | float (.finite x) => simp [toBinary64]

theorem scale_ne_nan {n : Number} (hn : n.toBinary64 ≠ .nan) {factor : Nat} (hpos : 0 < factor)
    (hfactor : factor ≤ 2 ^ 53) : (n.scale factor).toBinary64 ≠ .nan := by
  obtain ⟨y, hy, hzero⟩ := ofInt_eq_finite hpos hfactor
  cases n with
  | integer i =>
      simp only [scale]
      split
      · exact ofInt_ne_nan _
      · simp only [toBinary64, hy]
        exact mul_ne_nan (ofInt_ne_nan i) hzero
  | float x =>
      rw [scale, hy]
      exact mul_ne_nan hn hzero

theorem scaleBy_ne_nan (ts : List Token) {n : Number} (hn : n.toBinary64 ≠ .nan) :
    (n.scaleBy ts).toBinary64 ≠ .nan := by
  unfold scaleBy
  induction ts generalizing n with
  | nil => exact hn
  | cons t ts ih =>
      have hhundred := scale_ne_nan hn (by decide : 0 < 100) (by decide)
      have hthousand := scale_ne_nan hn (by decide : 0 < 1000) (by decide)
      cases t <;> exact ih ‹_›

theorem divideByThousand_ne_nan {n : Number} (hn : n.toBinary64 ≠ .nan) :
    n.divideByThousand.toBinary64 ≠ .nan := by
  obtain ⟨y, hy, hzero⟩ := ofInt_eq_finite (by decide : 0 < 1000) (by decide)
  have hdivisor : ofInt 1000 = .finite y := hy
  simp only [divideByThousand, toBinary64, hdivisor]
  exact div_ne_nan hn hzero

/-- Scaling a finite number may leave the finite numbers, but it always gives a number. -/
theorem scaledNumber_ne_nan (ts : List Token) {n : Number} (hn : n.toBinary64 ≠ .nan) :
    (scaledNumber ts n).toBinary64 ≠ .nan := by
  unfold scaledNumber
  induction (Layout.ofTokens ts).divisions with
  | zero => exact scaleBy_ne_nan ts hn
  | succ count ih => exact divideByThousand_ne_nan ih

/-! ## Exponents that fit -/

theorem scaled_zero (decimals : Nat) : Magnitude.zero.scaled decimals = 0 := by
  have hzero : roundHalfEven 0 unitsOfOne = 0 := by
    rw [roundHalfEven, Nat.zero_mod, Nat.zero_div]
    simp
  rw [Magnitude.scaled, Magnitude.zero, Nat.zero_mul, hzero]

theorem length_whole_fixed_zero (negative : Bool) (decimals : Nat) :
    ((float (.finite ⟨negative, .zero⟩)).fixed decimals).whole.length = 1 := by
  simp only [fixed, Magnitude.fixed, scaled_zero, Nat.zero_div]
  rfl

/-- From exponent 342 on the power of ten is infinite and the quotient zero. -/
theorem fits_of_le {places : Nat} (hplaces : 0 < places) (x : Finite) (decimals : Nat) {e : Int}
    (he : 342 ≤ e) : Fits (.finite x) places decimals e := by
  simp only [Fits, powTen_eq_infinite he, div, length_whole_fixed_zero]
  exact hplaces

/-- Every quotient of an infinite number is written with three characters. -/
theorem fits_infinite_iff {negative : Bool} {places decimals : Nat} {e : Int} :
    Fits (.infinite negative) places decimals e ↔ 3 ≤ places := by
  unfold Fits
  match powTen e with
  | .nan => exact Iff.rfl
  | .infinite _ => exact Iff.rfl
  | .finite _ => exact Iff.rfl

/-! ## The search -/

/-- The search gives an exponent that fits, and gives one if there is one. -/
theorem fittingExponent?_spec (x : Binary64) (places decimals : Nat) (start : Int) :
    (∀ e, fittingExponent? x places decimals start = some e →
      Fits x places decimals e ∧ start ≤ e ∧ e ≤ max start maxExponent) ∧
    (fittingExponent? x places decimals start = none →
      ∀ e, start ≤ e → e ≤ maxExponent → ¬Fits x places decimals e) := by
  fun_induction fittingExponent? x places decimals start with
  | case1 start hfits =>
      refine ⟨?_, nofun⟩
      rintro e ⟨⟩
      exact ⟨hfits, by omega, by omega⟩
  | case2 start hfits hlt ih =>
      refine ⟨fun e he => ?_, fun hnone e hle hmax => ?_⟩
      · obtain ⟨hfit, hstart, hend⟩ := ih.1 e he
        exact ⟨hfit, by omega, by omega⟩
      · rcases Int.lt_or_eq_of_le hle with hnext | rfl
        · exact ih.2 hnone e hnext hmax
        · exact hfits
  | case3 start hfits hge =>
      refine ⟨nofun, fun _ e hle hmax => ?_⟩
      obtain rfl : e = start := by omega
      exact hfits

/-- The cases without an exponent: there is none to begin with, or the number is infinite and the
places are too few for the text of a quotient. -/
def Endless (x : Binary64) (places : Nat) : Prop :=
  x.isZero = false ∧
    (firstExponent? x places = none ∨ places ≤ 2 ∧ ∃ negative, x = .infinite negative)

theorem isExponent_of_firstExponent? {x : Binary64} {places : Nat} {start : Int}
    (h : firstExponent? x places = some start) : IsExponent start := by
  unfold firstExponent? at h
  dsimp only at h
  split at h
  · next hrange =>
      obtain rfl := Option.some.inj h
      exact hrange.2
  · cases h

theorem le_maxExponent {e : Int} (h : IsExponent e) : e ≤ maxExponent := by
  unfold IsExponent at h
  unfold maxExponent
  omega

/-- An exponent fits unless the number is infinite and has too few places. -/
theorem fittingExponent?_eq_none_iff {x : Binary64} (hx : x ≠ .nan) {places : Nat}
    (hplaces : 0 < places) (decimals : Nat) {start : Int} (hstart : start ≤ maxExponent) :
    fittingExponent? x places decimals start = none ↔
      places ≤ 2 ∧ ∃ negative, x = .infinite negative := by
  obtain ⟨hsome, hnone⟩ := fittingExponent?_spec x places decimals start
  constructor
  · intro hend
    match x with
    | .nan => exact (hx rfl).elim
    | .infinite negative =>
        have hfits := hnone hend start le_rfl hstart
        rw [fits_infinite_iff] at hfits
        exact ⟨by omega, negative, rfl⟩
    | .finite x =>
        have hmax : max start 342 ≤ maxExponent := max_le hstart (by decide)
        have hfits := fits_of_le hplaces x decimals (le_max_right start 342)
        exact absurd hfits (hnone hend _ (le_max_left start 342) hmax)
  · rintro ⟨htwo, negative, rfl⟩
    by_contra hend
    obtain ⟨e, he⟩ := Option.ne_none_iff_exists'.1 hend
    have hthree := fits_infinite_iff.1 (hsome e he).1
    omega

theorem mantissa?_eq_some_iff {n : Number} (hzero : n.toBinary64.isZero = false)
    {places decimals : Nat} {m : Binary64} {e : Int} :
    mantissa? n places decimals = some (m, e) ↔
      ∃ start, firstExponent? n.toBinary64 places = some start ∧
        fittingExponent? n.toBinary64 places decimals start = some e ∧
        n.toBinary64.div (powTen e) = m := by
  simp only [mantissa?, hzero, Bool.false_eq_true, if_false, Option.bind_eq_bind,
    Option.bind_eq_some_iff, Option.pure_def, Option.some.injEq, Prod.mk.injEq]
  constructor
  · rintro ⟨start, hstart, exponent, hexponent, rfl, rfl⟩
    exact ⟨start, hstart, hexponent, rfl⟩
  · rintro ⟨start, hstart, hexponent, rfl⟩
    exact ⟨start, hstart, e, hexponent, rfl, rfl⟩

theorem mantissa?_of_isZero {n : Number} (hzero : n.toBinary64.isZero = true)
    (places decimals : Nat) : mantissa? n places decimals = some (Binary64.zero, 0) := by
  simp only [mantissa?, hzero, if_true]

theorem mantissa?_eq_none_iff {n : Number} (hn : n.toBinary64 ≠ .nan) {places : Nat}
    (hplaces : 0 < places) (decimals : Nat) :
    mantissa? n places decimals = none ↔ Endless n.toBinary64 places := by
  simp only [mantissa?, Endless]
  cases hzero : n.toBinary64.isZero with
  | true => simp
  | false =>
      cases hstart : firstExponent? n.toBinary64 places with
      | none => simp
      | some start =>
          have hle := le_maxExponent (isExponent_of_firstExponent? hstart)
          have hsearch := fittingExponent?_eq_none_iff hn hplaces decimals hle
          simp only [Bool.false_eq_true, if_false, Option.bind_eq_bind, Option.bind_some,
            Option.pure_def, reduceCtorEq, false_or, true_and, ← hsearch]
          cases fittingExponent? n.toBinary64 places decimals start <;> simp

theorem mantissa?_fits {n : Number} {places decimals : Nat} (hplaces : 0 < places) {m : Binary64}
    {e : Int} (h : mantissa? n places decimals = some (m, e)) :
    IsExponent e ∧ ((float m).fixed decimals).whole.length ≤ places := by
  cases hzero : n.toBinary64.isZero with
  | true =>
      rw [mantissa?_of_isZero hzero, Option.some.injEq, Prod.mk.injEq] at h
      obtain ⟨rfl, rfl⟩ := h
      exact ⟨by decide, (length_whole_fixed_zero false decimals).trans_le hplaces⟩
  | false =>
      obtain ⟨start, hstart, hexponent, rfl⟩ := (mantissa?_eq_some_iff hzero).1 h
      have hfirst := isExponent_of_firstExponent? hstart
      have hmax := le_maxExponent hfirst
      obtain ⟨hfits, hle, hend⟩ := (fittingExponent?_spec _ _ _ _).1 _ hexponent
      refine ⟨⟨hfirst.1.trans hle, ?_⟩, hfits⟩
      rw [max_eq_right hmax, maxExponent] at hend
      omega

/-! ## Where the search begins -/

theorem logFloor_bounds (x : Binary64) : -324 ≤ logFloor x ∧ logFloor x ≤ maxExponent := by
  match x with
  | .nan => decide
  | .infinite _ => exact ⟨by simp [logFloor, maxExponent], le_rfl⟩
  | .finite x =>
      have hdecade := decade_bounds x.magnitude
      simp only [logFloor, Magnitude.logFloor, maxExponent]
      split <;> omega

theorem firstExponent?_eq_some (x : Binary64) {places : Nat} (hpos : 0 < places)
    (hplaces : places ≤ 2 ^ 31 - 323) :
    firstExponent? x places = some (logFloor x - (places - 1)) := by
  obtain ⟨hlow, hhigh⟩ := logFloor_bounds x
  have hreach : (places : Int).bmod (2 ^ 32) = places := Int.bmod_eq_of_le (by omega) (by omega)
  have hrange : IsExponent ((places : Int) - 1) := by
    unfold IsExponent
    omega
  have hstart : IsExponent (logFloor x - ((places : Int) - 1)) := by
    unfold maxExponent at hhigh
    unfold IsExponent
    omega
  unfold firstExponent?
  simp only [hreach, hrange, hstart, and_self, if_true]

/-! ## Formatting -/

/-- The cases in which a section finds no exponent for a number. -/
def EndlessIn (ts : List Token) (n : Number) : Prop :=
  ts.any Token.isExponent = true ∧
    Endless (scaledNumber ts n).toBinary64 (max (Layout.ofTokens ts).places 1)

theorem isFinite_choose (pattern : Text) {n : Number} (hn : n.IsFinite) :
    (choose pattern n).number.IsFinite := by
  have habs : n.abs.IsFinite := by
    match n with
    | integer i => exact trivial
    | float .nan => exact hn
    | float (.infinite _) => exact hn
    | float (.finite x) => exact trivial
  simp only [choose]
  split_ifs
  · exact habs
  · exact hn
  · exact hn

/-- A section lays out the scaled number itself, or a mantissa of it that fits the places. -/
theorem scaled?_cases {ts : List Token} {n m : Number} {e : Int}
    (h : scaled? ts n = some (m, e)) :
    (ts.any Token.isExponent = false ∧ m = scaledNumber ts n ∧ e = 0) ∨
      (ts.any Token.isExponent = true ∧ ∃ x, m = float x ∧
        mantissa? (scaledNumber ts n) (max (Layout.ofTokens ts).places 1)
          (Layout.ofTokens ts).maxFraction = some (x, e)) := by
  cases hexponent : ts.any Token.isExponent with
  | false =>
      rw [scaled?, hexponent, if_neg Bool.false_ne_true, Option.some.injEq, Prod.mk.injEq] at h
      exact .inl ⟨rfl, h.1.symm, h.2.symm⟩
  | true =>
      rw [scaled?, if_pos hexponent, Option.map_eq_some_iff] at h
      obtain ⟨⟨x, exponent⟩, hmantissa, hresult⟩ := h
      obtain ⟨rfl, rfl⟩ := Prod.mk.inj hresult
      exact .inr ⟨rfl, x, rfl, hmantissa⟩

theorem scaled?_eq_none_iff (ts : List Token) {n : Number} (hn : n.IsFinite) :
    scaled? ts n = none ↔ EndlessIn ts n := by
  have hscaled := scaledNumber_ne_nan ts (toBinary64_ne_nan hn)
  unfold scaled? EndlessIn
  cases hexponent : ts.any Token.isExponent with
  | true =>
      have hmantissa := mantissa?_eq_none_iff hscaled
        (le_max_right (Layout.ofTokens ts).places 1) (Layout.ofTokens ts).maxFraction
      rw [if_pos rfl, Option.map_eq_none_iff, eq_self, true_and]
      exact hmantissa
  | false => simp

theorem formatFinite_eq_none_iff (culture : Culture) (format : Text) {n : Number}
    (hn : n.IsFinite) :
    formatFinite culture format n = none ↔
      standard? format = none ∧ EndlessIn (choose format n).tokens (choose format n).number := by
  have hscaled := scaled?_eq_none_iff (choose format n).tokens (isFinite_choose format hn)
  rw [← hscaled]
  unfold formatFinite
  cases standard? format with
  | some _ => simp
  | none => simp [custom?, formatSection?]

/-- A finite number gets no text in exactly these cases: the format is a pattern, the section for
the number has an exponent, and the scaled number is infinite and has at most two integer places,
or there are too many places to begin a search. Every search that ends has found a fitting
mantissa. Where a second section writes a magnitude, the integer `-2 ^ 127` is not meant, as its
magnitude does not fit 128 bits. -/
theorem format_eq_none_iff (culture : Culture) (format : Text) (n : Number) :
    (Number.format culture format n = none ↔
      n.IsFinite ∧ standard? format = none ∧
        EndlessIn (choose format n).tokens (choose format n).number) ∧
    (∀ ts m x e, scaled? ts m = some (x, e) → ts.any Token.isExponent = true →
      IsExponent e ∧
        (x.fixed (Layout.ofTokens ts).maxFraction).whole.length ≤
          max (Layout.ofTokens ts).places 1) ∧
    (∀ x places, 0 < places → places ≤ 2 ^ 31 - 323 →
      (Endless x places ↔ places ≤ 2 ∧ ∃ negative, x = .infinite negative)) := by
  refine ⟨?_, ?_, ?_⟩
  · have hfinite := formatFinite_eq_none_iff culture format (n := n)
    match n with
    | integer i => exact (hfinite trivial).trans (iff_of_eq (true_and _)).symm
    | float .nan => simp [Number.format, IsFinite]
    | float (.infinite _) => simp [Number.format, IsFinite]
    | float (.finite x) => exact (hfinite trivial).trans (iff_of_eq (true_and _)).symm
  · intro ts m x e hscaled hexponent
    obtain ⟨hnone, -⟩ | ⟨-, mantissa, rfl, hmantissa⟩ := scaled?_cases hscaled
    · simp [hexponent] at hnone
    · exact mantissa?_fits (le_max_right _ 1) hmantissa
  · intro x places hpos hplaces
    have hstart := firstExponent?_eq_some x hpos hplaces
    unfold Endless
    constructor
    · rintro ⟨-, hnone | hinfinite⟩
      · simp [hstart] at hnone
      · exact hinfinite
    · rintro ⟨htwo, negative, rfl⟩
      exact ⟨rfl, .inr ⟨htwo, negative, rfl⟩⟩

/-- A percent token takes a number of 309 digits to infinity, where no exponent fits its one place
anymore. -/
theorem format_percent_exponent_eq_none :
    ∃ x : Finite, ofRatio false (10 ^ 308) 1 = .finite x ∧
      Number.format .invariant "0E+0%" (float (.finite x)) = none := by
  have hbound : ∀ negative, ofRatio false (10 ^ 308) 1 ≠ .infinite negative := by decide +kernel
  have hfinite : ∃ x : Finite, ofRatio false (10 ^ 308) 1 = .finite x := by
    match h : ofRatio false (10 ^ 308) 1 with
    | .finite x => exact ⟨x, rfl⟩
    | .nan => exact (ofUnits_ne_nan _ _ _ h).elim
    | .infinite negative => exact absurd h (hbound negative)
  obtain ⟨x, hx⟩ := hfinite
  have hinfinite : (ofRatio false (10 ^ 308) 1).mul (ofInt 100) = .infinite false := by
    decide +kernel
  have hsection : choose "0E+0%" (float (.finite x)) =
      ⟨[.zero, .exponent true true 1, .percent], float (.finite x), true⟩ :=
    choose_of_notMem (by decide) _
  have hscaled : scaledNumber [.zero, .exponent true true 1, .percent] (float (.finite x)) =
      float (.infinite false) := by
    rw [hx] at hinfinite
    exact congrArg float hinfinite
  have hplaces : max (Layout.ofTokens [.zero, .exponent true true 1, .percent]).places 1 ≤ 2 := by
    decide
  have hendless : EndlessIn [.zero, .exponent true true 1, .percent] (float (.finite x)) := by
    refine ⟨rfl, ?_⟩
    rw [hscaled]
    exact ⟨rfl, .inr ⟨hplaces, false, rfl⟩⟩
  have hnumber : (float (.finite x)).IsFinite := trivial
  refine ⟨x, hx, (formatFinite_eq_none_iff .invariant "0E+0%" hnumber).2 ⟨rfl, ?_⟩⟩
  rw [hsection]
  exact hendless

end Phrasebook.Number
