import Phrasebook.Proofs.Binary64.Decade
import Phrasebook.Proofs.Number.ExponentSearch

/-!
# When scaling leaves the finite numbers

Only finite numbers are written with a format, but `P` and the percent and per mille tokens of a
pattern multiply them first, and an exponent divides them by a power of ten. Either step can give an
infinite number. The powers of ten grow with their exponents, so a search for an exponent gives an
infinite quotient only if its first quotient is one, and only to a section with at least three
places, where the three letters of the quotient fit.
-/

namespace Phrasebook.Number

open Binary64

attribute [local irreducible] ofUnits unitsOfOne unitLimit

/-! ## Numbers with a finite float -/

/-- Whether a number is one that can be given: an integer of 128 bits or a finite float. -/
def IsStored : Number → Prop
  | integer i => IsWide i
  | float (.finite _) => True
  | float _ => False

/-- Whether the float of a number is finite. -/
def IsBounded (n : Number) : Prop := ∃ x, n.toBinary64 = .finite x

theorem IsBounded.isFinite {n : Number} (hn : n.IsBounded) : n.IsFinite := by
  obtain ⟨x, hx⟩ := hn
  match n with
  | integer i => trivial
  | float .nan => cases hx
  | float (.infinite _) => cases hx
  | float (.finite _) => trivial

theorem isBounded_float_iff {x : Binary64} : (float x).IsBounded ↔ (float x).IsFinite := by
  refine ⟨IsBounded.isFinite, fun hx => ?_⟩
  match x with
  | .nan => exact hx.elim
  | .infinite _ => exact hx.elim
  | .finite x => exact ⟨x, rfl⟩

theorem isBounded_integer {i : Int} (hi : i.natAbs ≤ 2 ^ 127) : (integer i).IsBounded :=
  exists_ofInt_eq_finite hi

theorem natAbs_le_of_isWide {i : Int} (hi : IsWide i) : i.natAbs ≤ 2 ^ 127 := by
  unfold IsWide at hi
  omega

theorem IsStored.isBounded {n : Number} (hn : n.IsStored) : n.IsBounded := by
  match n with
  | integer i => exact isBounded_integer (natAbs_le_of_isWide hn)
  | float .nan => exact hn.elim
  | float (.infinite _) => exact hn.elim
  | float (.finite x) => exact ⟨x, rfl⟩

theorem IsStored.isBounded_choose {n : Number} (hn : n.IsStored) (pattern : Text) :
    (choose pattern n).number.IsBounded := by
  have habs : n.abs.IsBounded := by
    match n with
    | integer i =>
        have hle := natAbs_le_of_isWide hn
        exact isBounded_integer (by omega)
    | float .nan => exact hn.elim
    | float (.infinite _) => exact hn.elim
    | float (.finite x) => exact ⟨_, rfl⟩
  simp only [choose]
  split_ifs
  · exact habs
  · exact hn.isBounded
  · exact hn.isBounded

/-! ## Scaling -/

/-- What is scaled is an integer of 128 bits again or a float. -/
theorem isBounded_scale_iff {n : Number} {factor : Int} :
    (n.scale factor).IsBounded ↔ (n.scale factor).IsFinite := by
  cases n with
  | integer i =>
      simp only [scale]
      split
      · next hwide => exact iff_of_true (isBounded_integer (natAbs_le_of_isWide hwide)) trivial
      · exact isBounded_float_iff
  | float x => exact isBounded_float_iff

theorem IsFinite.of_scale {n : Number} {factor : Int} (h : (n.scale factor).IsFinite) :
    n.IsFinite := by
  cases n with
  | integer i => trivial
  | float x =>
      obtain ⟨z, hz⟩ := isBounded_float_iff.2 h
      exact isBounded_float_iff.1 (exists_eq_finite_of_mul hz)

theorem IsFinite.of_scaleBy {ts : List Token} {n : Number} (h : (n.scaleBy ts).IsFinite) :
    n.IsFinite := by
  induction ts generalizing n with
  | nil => exact h
  | cons t ts ih =>
      have hrest := ih h
      cases t with
      | percent => exact hrest.of_scale
      | perMille => exact hrest.of_scale
      | _ => exact hrest

theorem isBounded_scaleBy_iff {ts : List Token} {n : Number} (hn : n.IsBounded) :
    (n.scaleBy ts).IsBounded ↔ (n.scaleBy ts).IsFinite := by
  induction ts generalizing n with
  | nil => exact iff_of_true hn hn.isFinite
  | cons t ts ih =>
      have hscale : ∀ factor : Int, ((n.scale factor).scaleBy ts).IsBounded ↔
          ((n.scale factor).scaleBy ts).IsFinite := fun factor =>
        ⟨IsBounded.isFinite, fun h => (ih (isBounded_scale_iff.2 h.of_scaleBy)).2 h⟩
      cases t with
      | percent => exact hscale 100
      | perMille => exact hscale 1000
      | _ => exact ih hn

/-- Division by a thousand neither leaves the finite numbers nor leads back to them. -/
theorem isBounded_divideByThousand_iff {n : Number} :
    n.divideByThousand.IsBounded ↔ n.IsBounded := by
  obtain ⟨m, hunits, hthousand⟩ := ofInt_natCast (by decide : 1000 ≤ 2 ^ 53)
  have hdivisor : ofInt 1000 = .finite ⟨false, m⟩ := hthousand
  have hsize : (ofInt 1).size ≤ (ofInt 1000).size := by
    obtain ⟨one, hone, hfinite⟩ := ofInt_one
    rw [hfinite, hdivisor, size, size, hone, hunits]
    exact WithTop.coe_le_coe.2 (Nat.le_mul_of_pos_left _ (by decide))
  unfold IsBounded
  rw [divideByThousand, toBinary64]
  cases n.toBinary64 with
  | nan => simp [div]
  | infinite negative => simp [div, hdivisor]
  | finite x =>
      refine iff_of_true ?_ ⟨x, rfl⟩
      have hdiv := size_div_anti x (ofInt_ne_nan 1000) hsize
      rw [div_ofInt_one] at hdiv
      exact size_lt_top_iff.1 (hdiv.trans_lt (WithTop.coe_lt_top _))

theorem isBounded_scaledNumber_iff {ts : List Token} {n : Number} (hn : n.IsBounded) :
    (scaledNumber ts n).IsBounded ↔ (n.scaleBy ts).IsFinite := by
  unfold scaledNumber
  induction (Layout.ofTokens ts).divisions with
  | zero => exact isBounded_scaleBy_iff hn
  | succ count ih => exact isBounded_divideByThousand_iff.trans ih

theorem isFinite_scaledNumber_iff {ts : List Token} {n : Number} (hn : n.IsBounded) :
    (scaledNumber ts n).IsFinite ↔ (n.scaleBy ts).IsFinite := by
  have hbounded : (scaledNumber ts n).IsBounded ↔ (n.scaleBy ts).IsFinite :=
    isBounded_scaledNumber_iff hn
  unfold scaledNumber at hbounded ⊢
  cases hcount : (Layout.ofTokens ts).divisions with
  | zero => rfl
  | succ count =>
      rw [hcount] at hbounded
      exact isBounded_float_iff.symm.trans hbounded

/-! ## The first quotient of a search -/

/-- Whether the search for an exponent begins with a quotient that is not finite. -/
def StartsInfinite (x : Binary64) (places : Nat) : Prop :=
  x.isZero = false ∧ ∃ start, firstExponent? x places = some start ∧
    ¬(float (x.div (powTen start))).IsFinite

theorem length_whole_of_not_isFinite {n : Number} (hn : ¬n.IsFinite) (decimals : Nat) :
    (n.fixed decimals).whole.length = 3 := by
  match n with
  | integer i => exact (hn trivial).elim
  | float .nan => rfl
  | float (.infinite _) => rfl
  | float (.finite _) => exact (hn trivial).elim

theorem isFinite_div_iff {x y : Binary64} :
    (float (x.div y)).IsFinite ↔ (x.div y).size < ⊤ :=
  isBounded_float_iff.symm.trans size_lt_top_iff.symm

/-- As the powers of ten grow, the quotients stay finite once they are finite. -/
theorem isFinite_div_powTen (x : Finite) {e f : Int} (h : e ≤ f)
    (he : (float ((Binary64.finite x).div (powTen e))).IsFinite) :
    (float ((Binary64.finite x).div (powTen f))).IsFinite := by
  rw [isFinite_div_iff] at he ⊢
  exact (size_div_anti x (powTen_ne_nan f) (size_powTen_mono h)).trans_lt he

/-- The powers of ten below `10 ^ -308` are zero. -/
theorem div_powTen_eq_infinite {x : Finite} (hzero : x.magnitude.isZero = false) {e : Int}
    (he : e < -308) : (Binary64.finite x).div (powTen e) = .infinite x.negative := by
  rw [powTen_eq_zero he, div, hzero, Bool.bne_false]
  rfl

/-- Where a quotient of at most 300 integer places is not divided by zero it is finite. -/
theorem isFinite_div_powTen_of_le {x : Finite} (hzero : x.magnitude.isZero = false) {places : Nat}
    (hplaces : places ≤ 300) {e : Int} (he : -308 ≤ e)
    (hstart : x.magnitude.decade + 1 ≤ e + places) :
    (float ((Binary64.finite x).div (powTen e))).IsFinite := by
  rcases lt_or_ge 308 e with hgreat | hle
  · rw [powTen_eq_infinite_of_le hgreat]
    trivial
  · obtain ⟨m, hpower, hhalf⟩ := half_le_powTen he hle
    have hten := Magnitude.ten_zpow_pos e
    have hpos : 0 < m.value := (half_pos hten).trans_le hhalf
    have hquotient : x.magnitude.value / m.value ≤ ((2 ^ 1000 : Nat) : ℚ) := by
      rw [div_le_iff₀ hpos]
      have hnat : 2 * 10 ^ 300 ≤ 2 ^ 1000 := by
        calc
          2 * 10 ^ 300 = 2 * (10 ^ 150) ^ 2 := by rw [← Nat.pow_mul]
          _ ≤ (2 ^ 250) ^ 4 := by norm_num
          _ = 2 ^ 1000 := by rw [← Nat.pow_mul]
      have hcast : (2 : ℚ) * 10 ^ 300 ≤ ((2 ^ 1000 : Nat) : ℚ) := by exact_mod_cast hnat
      have hpowers : (10 : ℚ) ^ (x.magnitude.decade + 1) ≤ 10 ^ e * 10 ^ 300 := by
        have hsum : (10 : ℚ) ^ (e + 300) = 10 ^ e * 10 ^ 300 := by
          rw [zpow_add₀ (by norm_num)]
          exact congrArg _ (zpow_natCast 10 300)
        rw [← hsum]
        exact zpow_le_zpow_right₀ (by norm_num) (by omega)
      calc
        x.magnitude.value ≤ 10 ^ (x.magnitude.decade + 1) := (Magnitude.decade_spec hzero).2.le
        _ ≤ 10 ^ e * 10 ^ 300 := hpowers
        _ = 2 * 10 ^ 300 * (10 ^ e / 2) := by ring
        _ ≤ ((2 ^ 1000 : Nat) : ℚ) * m.value :=
          mul_le_mul hcast hhalf (half_pos hten).le (Nat.cast_nonneg _)
    obtain ⟨z, hz⟩ := @exists_div_eq_finite x ⟨false, m⟩ hpos hquotient
    rw [hpower, hz]
    trivial

/-- A search for up to 300 places starts with a quotient that is not finite exactly if it starts
below exponent -308. -/
theorem startsInfinite_iff {x : Finite} (hzero : x.magnitude.isZero = false) {places : Nat}
    (hpos : 0 < places) (hplaces : places ≤ 300) :
    StartsInfinite (.finite x) places ↔ x.magnitude.logFloor - (places - 1) < -308 := by
  have hstart : firstExponent? (.finite x) places = some (x.magnitude.logFloor - (places - 1)) :=
    firstExponent?_eq_some _ hpos (by omega)
  have hdecade : x.magnitude.decade ≤ x.magnitude.logFloor := by
    unfold Magnitude.logFloor
    split <;> omega
  constructor
  · rintro ⟨-, start, hstart', hinfinite⟩
    obtain rfl := Option.some.inj (hstart.symm.trans hstart')
    by_contra hle
    exact hinfinite (isFinite_div_powTen_of_le hzero hplaces (by omega) (by omega))
  · intro hlt
    refine ⟨hzero, _, hstart, ?_⟩
    rw [div_powTen_eq_infinite hzero hlt]
    exact id

/-- With fewer places than the letters of a word, a search passes the powers that are zero. -/
theorem fittingExponent?_of_le {x : Finite} (hzero : x.magnitude.isZero = false) {places : Nat}
    (hplaces : places ≤ 2) (decimals : Nat) {start : Int} (hstart : start ≤ -308) :
    fittingExponent? (.finite x) places decimals start =
      fittingExponent? (.finite x) places decimals (-308) := by
  obtain ⟨count, hcount⟩ := Int.le.dest hstart
  induction count generalizing start with
  | zero => rw [← hcount, Nat.cast_zero, add_zero]
  | succ count ih =>
      have hmax : start < maxExponent := by
        unfold maxExponent
        omega
      have hfits : ¬Fits (.finite x) places decimals start := by
        rw [Fits, div_powTen_eq_infinite hzero (by omega)]
        show ¬3 ≤ places
        omega
      rw [fittingExponent?, if_neg hfits, if_pos hmax]
      exact ih (by omega) (by omega)

theorem isFinite_mantissa_iff {n : Number} (hn : n.IsBounded) {places decimals : Nat}
    {m : Binary64} {e : Int} (h : mantissa? n places decimals = some (m, e)) :
    (float m).IsFinite ↔ ¬(3 ≤ places ∧ StartsInfinite n.toBinary64 places) := by
  obtain ⟨x, hx⟩ := hn
  cases hzero : n.toBinary64.isZero with
  | true =>
      rw [mantissa?_of_isZero hzero, Option.some.injEq, Prod.mk.injEq] at h
      obtain ⟨rfl, rfl⟩ := h
      refine iff_of_true trivial ?_
      rintro ⟨-, hne, -⟩
      rw [hzero] at hne
      cases hne
  | false =>
      obtain ⟨start, hstart, hexponent, rfl⟩ := (mantissa?_eq_some_iff hzero).1 h
      rw [hx] at hzero hstart hexponent ⊢
      obtain ⟨hfits, hle, -⟩ := (fittingExponent?_spec _ _ _ _).1 _ hexponent
      constructor
      · rintro hfinite ⟨hplaces, -, start', hstart', hinfinite⟩
        obtain rfl := Option.some.inj (hstart.symm.trans hstart')
        have hfirst : Fits (.finite x) places decimals start := by
          rw [Fits, length_whole_of_not_isFinite hinfinite]
          exact hplaces
        rw [fittingExponent?, if_pos hfirst] at hexponent
        obtain rfl := Option.some.inj hexponent
        exact hinfinite hfinite
      · intro hstarts
        by_contra hinfinite
        have hplaces : 3 ≤ places := by
          rw [Fits, length_whole_of_not_isFinite hinfinite] at hfits
          exact hfits
        refine hstarts ⟨hplaces, hzero, start, hstart, fun hfirst => ?_⟩
        exact hinfinite (isFinite_div_powTen x hle hfirst)

/-! ## What is laid out -/

/-- Whether a section leaves the finite numbers: its percent and per mille tokens do, or the first
quotient of its search for an exponent does and its places take the three letters. -/
def Overflows (ts : List Token) (n : Number) : Prop :=
  ¬(n.scaleBy ts).IsFinite ∨
    ts.any Token.isExponent = true ∧ 3 ≤ (Layout.ofTokens ts).places ∧
      StartsInfinite (scaledNumber ts n).toBinary64 (Layout.ofTokens ts).places

theorem mantissa?_of_not_isBounded {n : Number} (hn : ¬n.IsBounded) {places decimals : Nat}
    {m : Binary64} {e : Int} (h : mantissa? n places decimals = some (m, e)) :
    ¬(float m).IsFinite := by
  have hzero : n.toBinary64.isZero = false := by
    match hx : n.toBinary64 with
    | .nan => rfl
    | .infinite _ => rfl
    | .finite x => exact (hn ⟨x, hx⟩).elim
  obtain ⟨start, -, -, rfl⟩ := (mantissa?_eq_some_iff hzero).1 h
  intro hfinite
  obtain ⟨z, hz⟩ := isBounded_float_iff.2 hfinite
  exact hn (exists_eq_finite_of_div hz)

/-- A section lays out a finite number unless it leaves the finite numbers. -/
theorem isFinite_scaled?_iff {ts : List Token} {n : Number} (hn : n.IsBounded) {m : Number}
    {e : Int} (h : scaled? ts n = some (m, e)) : m.IsFinite ↔ ¬Overflows ts n := by
  have hscaled : (scaledNumber ts n).IsBounded ↔ (n.scaleBy ts).IsFinite :=
    isBounded_scaledNumber_iff hn
  unfold Overflows
  obtain ⟨hexponent, rfl, -⟩ | ⟨hexponent, x, rfl, hmantissa⟩ := scaled?_cases h
  · refine (isFinite_scaledNumber_iff hn).trans ?_
    simp [hexponent]
  · by_cases hfinite : (n.scaleBy ts).IsFinite
    · have hiff := isFinite_mantissa_iff (hscaled.2 hfinite) hmantissa
      rw [hiff, not_iff_not]
      by_cases hplaces : 3 ≤ (Layout.ofTokens ts).places
      · have hmax : max (Layout.ofTokens ts).places 1 = (Layout.ofTokens ts).places := by omega
        simp [hexponent, hmax, hfinite]
      · have hmax : ¬3 ≤ max (Layout.ofTokens ts).places 1 := by omega
        simp only [hmax, hplaces, hfinite, false_and, and_false, not_true_eq_false, or_self]
    · refine iff_of_false ?_ (not_not.2 (.inl hfinite))
      exact mantissa?_of_not_isBounded (fun h => hfinite (hscaled.1 h)) hmantissa

end Phrasebook.Number
