import Phrasebook.Proofs.Binary64.Sign
import Phrasebook.Proofs.Number.Finiteness

/-!
# Signs of formatted numbers

A section multiplies, divides and rounds. None of these steps makes a number negative, so a number
that is not negative is written the same with and without a minus sign for negative ones. All of
them commute with the change of the sign, so the opposite of a number is laid out with the same
digits and the same exponent.
-/

namespace Phrasebook.Number

open Binary64

attribute [local irreducible] ofUnits unitsOfOne unitLimit

theorem isUnsigned_ofInt (factor : Nat) : (ofInt factor).IsUnsigned := by
  have hsign : decide ((factor : Int) < 0) = false := decide_eq_false (by omega)
  rw [ofInt, ofRatio, hsign]
  exact isUnsigned_ofUnits _ _

/-- The sign of a rounded number shows exactly if a digit does that is not zero. -/
theorem any_ne_zero_fixed (m : Magnitude) (decimals : Nat) :
    ((m.fixed decimals).1 ++ (m.fixed decimals).2).any (· != '0') = (m.scaled decimals != 0) := by
  have hwhole : (digits (m.scaled decimals / 10 ^ decimals)).any (· != '0') =
      (m.scaled decimals / 10 ^ decimals != 0) := by
    simpa [paddedDigits, List.leftpad] using
      any_ne_zero_paddedDigits 0 (m.scaled decimals / 10 ^ decimals)
  rw [Magnitude.fixed, List.any_append, hwhole, Bool.eq_iff_iff, Bool.or_eq_true]
  simp only [bne_iff_ne, ne_eq]
  split
  · next hzero => simp [hzero]
  · rw [any_ne_zero_paddedDigits, bne_iff_ne, ← not_and_or, not_iff_not]
    constructor
    · rintro ⟨hdiv, hmod⟩
      rw [← Nat.div_add_mod (m.scaled decimals) (10 ^ decimals), hdiv, hmod, Nat.mul_zero]
    · intro hzero
      rw [hzero, Nat.zero_div, Nat.zero_mod]
      exact ⟨rfl, rfl⟩

/-! ## Numbers that are not negative -/

section NotNegative

variable {n : Number} (hn : n.isNegative = false)
include hn

theorem isNegative_toBinary64 : n.toBinary64.isNegative = false := by
  cases n with
  | integer i => exact isNegative_ofUnits (.inl hn) 1
  | float x => exact hn

theorem isNegative_scale (factor : Nat) : (n.scale factor).isNegative = false := by
  have hfloat := isNegative_mul (isNegative_toBinary64 hn) (isUnsigned_ofInt factor)
  cases n with
  | integer i =>
      have hi : 0 ≤ i := not_lt.1 (of_decide_eq_false hn)
      rw [scale]
      split
      · exact decide_eq_false (Int.mul_nonneg hi (Int.natCast_nonneg factor)).not_gt
      · exact hfloat
  | float x => exact hfloat

theorem isNegative_divideByThousand : n.divideByThousand.isNegative = false :=
  isNegative_div (isNegative_toBinary64 hn) (isUnsigned_ofInt 1000)

theorem isNegative_scaleBy (ts : List Token) : (n.scaleBy ts).isNegative = false := by
  induction ts generalizing n with
  | nil => exact hn
  | cons t ts ih =>
      cases t with
      | percent => exact ih (isNegative_scale hn 100)
      | perMille => exact ih (isNegative_scale hn 1000)
      | _ => exact ih hn

theorem isNegative_scaledNumber (ts : List Token) : (scaledNumber ts n).isNegative = false := by
  unfold scaledNumber
  induction (Layout.ofTokens ts).divisions with
  | zero => exact isNegative_scaleBy hn ts
  | succ count ih => exact isNegative_divideByThousand ih

/-- What a section lays out of a number that is not negative is not negative. -/
theorem isNegative_of_scaled? {ts : List Token} {m : Number} {e : Int}
    (h : scaled? ts n = some (m, e)) : m.isNegative = false := by
  have hscaled := isNegative_scaledNumber hn ts
  obtain ⟨-, rfl, -⟩ | ⟨-, x, rfl, hmantissa⟩ := scaled?_cases h
  · exact hscaled
  · cases hzero : (scaledNumber ts n).toBinary64.isZero with
    | true =>
        rw [mantissa?_of_isZero hzero] at hmantissa
        obtain ⟨rfl, rfl⟩ := Prod.mk.inj (Option.some.inj hmantissa)
        rfl
    | false =>
        obtain ⟨start, -, -, rfl⟩ := (mantissa?_eq_some_iff hzero).1 hmantissa
        exact isNegative_div (isNegative_toBinary64 hscaled) (isUnsigned_powTen e)

theorem negative_fixed (decimals : Nat) : (n.fixed decimals).negative = false := by
  match n with
  | integer i => exact hn
  | float .nan => rfl
  | float (.infinite _) => exact hn
  | float (.finite x) =>
      simp only [fixed, any_ne_zero_fixed]
      rcases isNegative_finite.1 hn with hsign | hzero
      · rw [hsign, Bool.false_and]
      · have hrounded : x.magnitude.scaled decimals = 0 := by
          rw [Magnitude.scaled, beq_iff_eq.1 hzero, Nat.zero_mul]
          exact roundHalfEven_eq_zero unitsOfOne_pos
        rw [hrounded, bne_self_eq_false, Bool.and_false]

/-- A minus sign for negative numbers does not matter to any other number. -/
theorem formatSection?_of_isNegative (culture : Culture) (ts : List Token) (withMinus : Bool) :
    formatSection? culture ts n withMinus = formatSection? culture ts n true := by
  unfold formatSection?
  cases hscaled : scaled? ts n with
  | none => rfl
  | some result =>
      have hsign := negative_fixed (isNegative_of_scaled? hn hscaled)
        (Layout.ofTokens ts).maxFraction
      simp only [Option.map_some, hsign, Bool.and_false]

end NotNegative

/-! ## Opposite numbers -/

theorem neg_float (x : Binary64) : (float x).neg = float x.neg := rfl

theorem isWide_neg_iff {i : Int} (h : 5 ∣ i) : IsWide (-i) ↔ IsWide i := by
  unfold IsWide
  omega

theorem neg_scale (n : Number) {factor : Nat} (h : 5 ∣ factor) :
    n.neg.scale factor = (n.scale factor).neg := by
  cases n with
  | integer i =>
      have hwide : IsWide (-i * factor) ↔ IsWide (i * factor) := by
        rw [Int.neg_mul]
        exact isWide_neg_iff (Dvd.dvd.mul_left (Int.natCast_dvd_natCast.2 h) i)
      simp only [neg, scale, hwide]
      split
      · rw [Int.neg_mul]
      · next hgreat =>
          have hne : i ≠ 0 := by
            rintro rfl
            exact hgreat (by simp [IsWide])
          rw [ofInt_neg hne, mul_neg_left]
  | float x => exact congrArg float (mul_neg_left x _)

/-- An integer zero has no other sign, so its float is not the opposite of itself. -/
theorem neg_toBinary64 {n : Number} (hn : n ≠ integer 0) : n.neg.toBinary64 = n.toBinary64.neg := by
  cases n with
  | integer i => exact ofInt_neg fun hzero => hn (congrArg integer hzero)
  | float x => rfl

theorem neg_divideByThousand {n : Number} (hn : n ≠ integer 0) :
    n.neg.divideByThousand = n.divideByThousand.neg := by
  rw [divideByThousand, neg_toBinary64 hn, div_neg_left]
  rfl

theorem neg_scaleBy (n : Number) (ts : List Token) : n.neg.scaleBy ts = (n.scaleBy ts).neg := by
  induction ts generalizing n with
  | nil => rfl
  | cons t ts ih =>
      have hscale : ∀ factor : Nat, 5 ∣ factor →
          (n.neg.scale factor).scaleBy ts = ((n.scale factor).scaleBy ts).neg := by
        intro factor hfactor
        rw [neg_scale n hfactor, ih]
      cases t with
      | percent => exact hscale 100 (by decide)
      | perMille => exact hscale 1000 (by decide)
      | _ => exact ih n

theorem scale_ne_zero {n : Number} (hn : n ≠ integer 0) {factor : Nat} (hpos : 0 < factor) :
    n.scale factor ≠ integer 0 := by
  cases n with
  | integer i =>
      have hne : i ≠ 0 := fun hzero => hn (congrArg integer hzero)
      rw [scale]
      split
      · simp [hne, hpos.ne']
      · simp
  | float x => simp [scale]

theorem scaleBy_ne_zero {n : Number} (hn : n ≠ integer 0) (ts : List Token) :
    n.scaleBy ts ≠ integer 0 := by
  induction ts generalizing n with
  | nil => exact hn
  | cons t ts ih =>
      have hhundred := ih (scale_ne_zero hn (by decide : 0 < 100))
      have hthousand := ih (scale_ne_zero hn (by decide : 0 < 1000))
      cases t with
      | percent => exact hhundred
      | perMille => exact hthousand
      | _ => exact ih hn

theorem repeat_divideByThousand_ne_zero {n : Number} (hn : n ≠ integer 0) (count : Nat) :
    Nat.repeat divideByThousand count n ≠ integer 0 := by
  cases count with
  | zero => exact hn
  | succ count => exact nofun

theorem scaledNumber_ne_zero {n : Number} (hn : n ≠ integer 0) (ts : List Token) :
    scaledNumber ts n ≠ integer 0 :=
  repeat_divideByThousand_ne_zero (scaleBy_ne_zero hn ts) _

theorem neg_scaledNumber {n : Number} (hn : n ≠ integer 0) (ts : List Token) :
    scaledNumber ts n.neg = (scaledNumber ts n).neg := by
  have hstep := repeat_divideByThousand_ne_zero (scaleBy_ne_zero hn ts)
  unfold scaledNumber
  rw [neg_scaleBy]
  induction (Layout.ofTokens ts).divisions with
  | zero => rfl
  | succ count ih => rw [Nat.repeat, ih, neg_divideByThousand (hstep count), Nat.repeat]

theorem neg_fixed (n : Number) (decimals : Nat) :
    (n.neg.fixed decimals).whole = (n.fixed decimals).whole ∧
      (n.neg.fixed decimals).fraction = (n.fixed decimals).fraction := by
  match n with
  | integer i => exact ⟨congrArg digits i.natAbs_neg, rfl⟩
  | float .nan => exact ⟨rfl, rfl⟩
  | float (.infinite _) => exact ⟨rfl, rfl⟩
  | float (.finite _) => exact ⟨rfl, rfl⟩

/-- The search for an exponent does not look at the sign. -/
theorem neg_fittingExponent? (x : Binary64) (places decimals : Nat) (start : Int) :
    fittingExponent? x.neg places decimals start = fittingExponent? x places decimals start := by
  have hfits : ∀ e, Fits x.neg places decimals e ↔ Fits x places decimals e := by
    intro e
    rw [Fits, Fits, div_neg_left, ← neg_float, (neg_fixed _ decimals).1]
  fun_induction fittingExponent? x places decimals start with
  | case1 start hfit => rw [fittingExponent?, if_pos ((hfits start).2 hfit)]
  | case2 start hfit hlt ih =>
      rw [fittingExponent?, if_neg (fun h => hfit ((hfits start).1 h)), if_pos hlt, ih]
  | case3 start hfit hge =>
      rw [fittingExponent?, if_neg (fun h => hfit ((hfits start).1 h)), if_neg hge]

theorem neg_firstExponent? (x : Binary64) (places : Nat) :
    firstExponent? x.neg places = firstExponent? x places := by
  have hlog : logFloor x.neg = logFloor x := by cases x <;> simp only [logFloor, Binary64.neg]
  unfold firstExponent?
  rw [hlog]

theorem neg_mantissa? {n : Number} (hn : n ≠ integer 0) (places decimals : Nat) :
    mantissa? n.neg places decimals =
      if n.toBinary64.isZero then mantissa? n places decimals
      else (mantissa? n places decimals).map (Prod.map Binary64.neg id) := by
  simp only [mantissa?, neg_toBinary64 hn, isZero_neg, neg_firstExponent?, neg_fittingExponent?,
    div_neg_left]
  split
  · rfl
  · simp only [Option.bind_eq_bind, Option.pure_def, Option.map_bind, Function.comp_def,
      Option.map_some, Prod.map_apply, id_eq]

/-- The opposite of a number is laid out as the opposite. A mantissa of zero has no sign. -/
theorem neg_scaled? {n : Number} (hn : n ≠ integer 0) (ts : List Token) :
    scaled? ts n.neg = (scaled? ts n).map (Prod.map neg id) ∨
      scaled? ts n.neg = some (float .zero, 0) ∧ scaled? ts n = some (float .zero, 0) := by
  have hneg := neg_scaledNumber hn ts
  have hne := scaledNumber_ne_zero hn ts
  cases hexponent : ts.any Token.isExponent with
  | false =>
      left
      simp only [scaled?, hexponent, Bool.false_eq_true, if_false, Option.map_some,
        Prod.map_apply, id_eq]
      exact congrArg (fun m => some (m, (0 : Int))) hneg
  | true =>
      have hmantissa := neg_mantissa? hne (max (Layout.ofTokens ts).places 1)
        (Layout.ofTokens ts).maxFraction
      rw [← hneg] at hmantissa
      have hleft : scaled? ts n.neg = (mantissa? (scaledNumber ts n.neg)
          (max (Layout.ofTokens ts).places 1) (Layout.ofTokens ts).maxFraction).map
            (Prod.map float id) := if_pos hexponent
      have hright : scaled? ts n = (mantissa? (scaledNumber ts n)
          (max (Layout.ofTokens ts).places 1) (Layout.ofTokens ts).maxFraction).map
            (Prod.map float id) := if_pos hexponent
      rw [hleft, hright, hmantissa]
      split
      · next hzero =>
          right
          have hnone : mantissa? (scaledNumber ts n) (max (Layout.ofTokens ts).places 1)
              (Layout.ofTokens ts).maxFraction = some (Binary64.zero, 0) := if_pos hzero
          rw [hnone]
          exact ⟨rfl, rfl⟩
      · left
        rw [Option.map_map, Option.map_map]
        rfl

end Phrasebook.Number
