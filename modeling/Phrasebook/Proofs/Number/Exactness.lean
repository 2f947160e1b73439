import Phrasebook.Json.Basic
import Phrasebook.Proofs.Binary64.Integer
import Phrasebook.Proofs.Number.Numeral

/-!
# Integers in general and scientific notation

With a precision both notations write the floating point number nearest to an integer. All its
digits are shown if they are no more than the precision, and otherwise the text denotes a number
that has more digits than the integer. So the integer comes out exactly if it is a floating point
number.
-/

namespace Phrasebook

open Binary64

attribute [local irreducible] ofUnits unitsOfOne unitLimit

/-! ## Zeros at the end -/

namespace Text

theorem dropEndWhile_append_replicate {p : Char → Bool} {c : Char} (hc : p c = true) (s : Text)
    (count : Nat) : dropEndWhile p (s ++ List.replicate count c) = dropEndWhile p s := by
  apply dropEndWhile_append_of_forall
  intro d hd
  rwa [List.eq_of_mem_replicate hd]

/-- What is dropped at the end comes back when the text is filled up again. -/
theorem dropEndWhile_append_fill (c : Char) (s : Text) :
    dropEndWhile (· == c) s ++
      List.replicate (s.length - (dropEndWhile (· == c) s).length) c = s := by
  induction s with
  | nil => rfl
  | cons d s ih =>
      rw [dropEndWhile]
      cases hrest : dropEndWhile (· == c) s with
      | cons e rest =>
          rw [hrest] at ih
          simpa using ih
      | nil =>
          rw [hrest] at ih
          have hs : List.replicate s.length c = s := by simpa using ih
          by_cases hd : d = c
          · subst hd
            simp [List.replicate_succ, hs]
          · simp [hd, hs]

end Text

theorem digits_mul_ten_pow {n : Nat} (hn : 0 < n) (count : Nat) :
    digits (n * 10 ^ count) = digits n ++ List.replicate count '0' := by
  induction count with
  | zero => simp
  | succ count ih =>
      have hpos : 0 < n * 10 ^ count := Nat.mul_pos hn (Nat.pow_pos (by decide))
      have hstep := Nat.toDigits_append_toDigits (by decide : 1 < 10) hpos (by decide : 0 < 10)
      rw [Nat.pow_succ, ← Nat.mul_assoc, Nat.mul_comm _ 10, digits,
        ← Nat.add_zero (10 * _), ← hstep,
        List.replicate_succ', ← List.append_assoc, ← ih]
      rfl

theorem dropEndWhile_digits_ne_nil {n : Nat} (hn : 0 < n) :
    Text.dropEndWhile (· == '0') (digits n) ≠ [] := by
  rw [ne_eq, Text.dropEndWhile_eq_nil_iff]
  intro hall
  have hzeros : digits n = List.replicate (digits n).length '0' :=
    List.eq_replicate_iff.2 ⟨rfl, fun c hc => by simpa using hall c hc⟩
  have hvalue := valueOf_digits n
  rw [hzeros, valueOf_replicate_zero] at hvalue
  omega

/-- The digits of a positive number are shown without the zeros at their end. -/
theorem Binary64.Scientific.text_eq {s : Scientific} (hs : 0 < s.digits) :
    s.text = Text.dropEndWhile (· == '0') (Phrasebook.digits s.digits) := by
  have hne := dropEndWhile_digits_ne_nil hs
  rw [Scientific.text]
  split
  · next hnil => exact (hne hnil).elim
  · rfl

theorem integerText_eq_withSign (i : Int) :
    integerText i = Number.withSign (decide (i < 0)) (digits i.natAbs) := by
  simp [integerText, Number.withSign]

theorem withSign_digits_inj {negative negative' : Bool} {m n : Nat} :
    Number.withSign negative (digits m) = Number.withSign negative' (digits n) ↔
      negative = negative' ∧ m = n := by
  have hcut : ∀ sign k, cutSign (Number.withSign sign (digits k)) = (sign, digits k) := by
    intro sign k
    refine Number.cutSign_withSign sign ?_
    cases hdigits : digits k with
    | nil => exact (digits_ne_nil k hdigits).elim
    | cons c s => exact isDigit_of_mem_digits (hdigits ▸ List.mem_cons_self)
  constructor
  · intro h
    have hcuts := congrArg cutSign h
    rw [hcut, hcut] at hcuts
    obtain ⟨hsign, hdigits⟩ := Prod.mk.inj hcuts
    exact ⟨hsign, by rw [← valueOf_digits m, hdigits, valueOf_digits]⟩
  · rintro ⟨rfl, rfl⟩
    rfl

theorem integerText_inj {i j : Int} : integerText i = integerText j ↔ i = j := by
  rw [integerText_eq_withSign, integerText_eq_withSign, withSign_digits_inj, decide_eq_decide]
  omega

theorem Json.Integer.natAbs_le (i : Json.Integer) : i.val.natAbs ≤ 2 ^ 127 := by
  have hlow := i.le_val
  have hhigh := i.val_lt
  omega

namespace Number

/-! ## Scientific notation -/

section Scientific

variable {culture : Culture} {x : Finite} {n places : Nat}

/-- The value of the digits that are shown in scientific notation. -/
def shownValue (m : Magnitude) (places : Nat) : ℚ :=
  (m.scientific places).digits * 10 ^ ((m.scientific places).exponent - places)

theorem shownValue_of_units {m : Magnitude} (hm : m.units = n * unitsOfOne)
    (hplaces : (digits n).length ≤ places + 1) : shownValue m places = n := by
  rcases Nat.eq_zero_or_pos n with rfl | hn
  · have hzero : m.isZero = true := by simp [Magnitude.isZero_of_units hm]
    simp [shownValue, Magnitude.scientific, hzero]
  · have hpos := List.length_pos_iff.2 (digits_ne_nil n)
    have hexponent : ((digits n).length : Int) - 1 - places =
        -((places + 1 - (digits n).length : Nat) : Int) := by omega
    rw [shownValue, Magnitude.scientific_of_units hm hn hplaces, hexponent, zpow_neg, zpow_natCast,
      Nat.cast_mul, Nat.cast_pow]
    exact mul_inv_cancel_right₀ (by positivity) _

theorem ten_pow_le_shownValue {m : Magnitude} (hm : m.units = n * unitsOfOne) (hn : 0 < n)
    (places : Nat) : 10 ^ ((digits n).length - 1) ≤ shownValue m places := by
  have hzero := Magnitude.isZero_of_units_of_pos hm hn
  have hpos := List.length_pos_iff.2 (digits_ne_nil n)
  have hten : (0 : ℚ) < 10 := by norm_num
  have hdigits : 10 ^ places ≤ (m.scientific places).digits := (Magnitude.le_scientific hzero).1
  have hexponent : m.decade ≤ (m.scientific places).exponent := (Magnitude.le_scientific hzero).2
  rw [Magnitude.decade_of_units hm hn] at hexponent
  have hdigits' : (10 : ℚ) ^ places ≤ (m.scientific places).digits := by exact_mod_cast hdigits
  calc
    (10 : ℚ) ^ ((digits n).length - 1) =
        10 ^ places * 10 ^ ((((digits n).length - 1 : Nat) : Int) - places) := by
      rw [zpow_sub₀ hten.ne', zpow_natCast, zpow_natCast,
        mul_div_cancel₀ _ (pow_ne_zero _ hten.ne')]
    _ ≤ 10 ^ places * 10 ^ ((m.scientific places).exponent - places) := by
      apply mul_le_mul_of_nonneg_left _ (by positivity)
      exact zpow_le_zpow_right₀ (by norm_num) (by omega)
    _ ≤ shownValue m places := mul_le_mul_of_nonneg_right hdigits' (by positivity)

/-- The text in scientific notation denotes the shown digits with the sign of the number. -/
theorem read?_scientific (hculture : culture.HasPlainDecimals) {number : Number}
    (hx : number.toBinary64 = .finite x) (places : Nat) (upper : Bool) :
    ∃ r, Numeral.read? culture.decimalSeparator (scientific culture number places upper) = some r ∧
      r.value = (if x.negative then -1 else 1) * shownValue x.magnitude places := by
  obtain ⟨row, hrow⟩ : ∃ row,
      paddedDigits (places + 1) (x.magnitude.scientific places).digits = row :=
    ⟨_, rfl⟩
  have hdigits : ∀ c ∈ row, c.isDigit = true := fun c hc => isDigit_of_mem_paddedDigits (hrow ▸ hc)
  have hlength : row.length = places + 1 :=
    hrow ▸ length_paddedDigits_eq (Nat.succ_pos _) (x.magnitude.scientific_digits_lt places)
  have hvalue : valueOf row = (x.magnitude.scientific places).digits :=
    hrow ▸ valueOf_paddedDigits _ _
  have hfirst : row.take 1 ≠ [] := by
    rw [← List.length_pos_iff, List.length_take, hlength]
    omega
  have hread : Numeral.read? culture.decimalSeparator
      (withSign (x.negative && !x.magnitude.isZero)
        (joinFraction culture (row.take 1) (row.drop 1) ++
          exponentPart 3 upper (some (x.magnitude.scientific places).exponent))) = _ :=
    read?_numeral hculture _ hfirst (fun c hc => hdigits c (List.mem_of_mem_take hc))
      (fun c hc => hdigits c (List.mem_of_mem_drop hc)) _
  simp only [scientific, hx, hrow]
  refine ⟨_, hread, ?_⟩
  simp only [Numeral.value, Fixed.value, List.take_append_drop, hvalue, List.length_drop, hlength,
    Nat.add_sub_cancel, Option.getD_some, shownValue]
  have hshift : ((x.magnitude.scientific places).digits : ℚ) / 10 ^ places *
      10 ^ (x.magnitude.scientific places).exponent =
        (x.magnitude.scientific places).digits *
          10 ^ ((x.magnitude.scientific places).exponent - places) := by
    rw [zpow_sub₀ (by norm_num), zpow_natCast]
    ring
  rw [mul_assoc, hshift]
  cases hzero : x.magnitude.isZero with
  | false => simp
  | true =>
      have hnone : (x.magnitude.scientific places).digits = 0 := by
        rw [Magnitude.scientific, if_pos hzero]
      simp [hnone]

end Scientific

/-- An integer of few digits is denoted by its text in scientific notation if it is a floating point
number. Otherwise the text denotes another one, or a number of more digits. -/
theorem scientific_integer_iff {culture : Culture} (hculture : culture.HasPlainDecimals) {i : Int}
    (hi : i.natAbs ≤ 2 ^ 127) {places : Nat} (hplaces : (digits i.natAbs).length ≤ places + 1)
    (upper : Bool) :
    ∃ r, Numeral.read? culture.decimalSeparator
        (scientific culture (integer i) places upper) = some r ∧ (r.value = i ↔ IsExact i) := by
  obtain ⟨m, hunits, hfinite⟩ := ofInt_eq hi
  obtain ⟨near, hnear⟩ : ∃ near, roundUnits i.natAbs 1 = near := ⟨_, rfl⟩
  rw [hnear] at hunits
  have hnumber : (integer i).toBinary64 = .finite ⟨decide (i < 0), m⟩ := hfinite
  obtain ⟨r, hread, hvalue⟩ := read?_scientific hculture hnumber places upper
  refine ⟨r, hread, ?_⟩
  rw [hvalue, isExact_iff_roundUnits hi, hnear]
  have hsign : ∀ v : ℚ, (if (decide (i < 0)) = true then -1 else 1) * v = i ↔ v = i.natAbs := by
    intro v
    rw [Nat.cast_natAbs, Int.cast_abs]
    by_cases hneg : i < 0
    · have hcast : (i : ℚ) < 0 := by exact_mod_cast hneg
      rw [decide_eq_true hneg, if_pos rfl, abs_of_neg hcast, neg_one_mul, neg_eq_iff_eq_neg]
    · have hcast : (0 : ℚ) ≤ i := by exact_mod_cast not_lt.1 hneg
      rw [decide_eq_false hneg, if_neg Bool.false_ne_true, abs_of_nonneg hcast, one_mul]
  rw [hsign]
  rcases Nat.lt_or_ge (places + 1) (digits near).length with hmore | hfew
  · have hlt : i.natAbs < 10 ^ (places + 1) := (length_digits_le_iff (Nat.succ_pos _)).1 hplaces
    have hge : 10 ^ (places + 1) ≤ near := by
      rw [← Nat.not_lt, ← length_digits_le_iff (Nat.succ_pos _), Nat.not_le]
      exact hmore
    have hshown : (10 : ℚ) ^ (places + 1) ≤ shownValue m places :=
      le_trans (pow_le_pow_right₀ (by norm_num) (by omega))
        (ten_pow_le_shownValue hunits (Nat.lt_of_lt_of_le (Nat.pow_pos (by decide)) hge) places)
    have hlt' : (i.natAbs : ℚ) < 10 ^ (places + 1) := by exact_mod_cast hlt
    exact iff_of_false (fun h => absurd (h ▸ hshown) (not_le.2 hlt')) (by omega)
  · rw [shownValue_of_units hunits hfew, Nat.cast_inj]

/-! ## General notation -/

section General

variable {culture : Culture} {m : Magnitude} {n precision : Nat} {negative upper : Bool}

/-- A whole number of few digits is written with all of them. -/
theorem generalFinite_of_units (hm : m.units = n * unitsOfOne) (hn : 0 < n)
    (hprecision : (digits n).length ≤ precision) :
    generalFinite culture ⟨negative, m⟩ (some precision) upper = withSign negative (digits n) := by
  have hzero := Magnitude.isZero_of_units_of_pos hm hn
  have hpos := List.length_pos_iff.2 (digits_ne_nil n)
  obtain ⟨places, rfl⟩ := Nat.exists_eq_add_one_of_ne_zero (by omega : precision ≠ 0)
  obtain ⟨size, hsize⟩ := Nat.exists_eq_add_one_of_ne_zero hpos.ne'
  have hrow : (m.scientific places).text = Text.dropEndWhile (· == '0') (digits n) := by
    rw [Scientific.text_eq (Magnitude.scientific_digits_pos hzero places),
      Magnitude.scientific_of_units hm hn hprecision, digits_mul_ten_pow hn]
    exact Text.dropEndWhile_append_replicate rfl _ _
  have hexponent : (m.scientific places).exponent = size := by
    rw [Magnitude.scientific_of_units hm hn hprecision, hsize]
    exact Int.add_sub_cancel (size : Int) 1
  have hshort : ¬size + 1 < (Text.dropEndWhile (· == '0') (digits n)).length := by
    have hle := (Text.dropEndWhile_isPrefix (p := (· == '0')) (digits n)).length_le
    omega
  have hfill := Text.dropEndWhile_append_fill '0' (digits n)
  rw [hsize] at hfill
  have hwindow : -5 < (size : Int) ∧ (size : Int) < ((some (places + 1)).getD 15 : Nat) := by
    rw [Option.getD_some]
    omega
  simp only [generalFinite, hzero, Bool.false_eq_true, if_false, significant, Nat.add_sub_cancel,
    hrow, hexponent, hwindow, and_self, if_true, Int.natAbs_natCast, hshort, hfill,
    show ¬(size : Int) < 0 by omega]

/-- A whole number of many digits is written with an exponent. -/
theorem exponent_mem_generalFinite (hm : m.units = n * unitsOfOne) (hn : 0 < n)
    (hprecision : precision < (digits n).length) :
    (if upper then 'E' else 'e') ∈ generalFinite culture ⟨negative, m⟩ (some precision) upper := by
  have hzero := Magnitude.isZero_of_units_of_pos hm hn
  have hexponent : m.decade ≤ (m.scientific (precision - 1)).exponent :=
    (Magnitude.le_scientific hzero).2
  rw [Magnitude.decade_of_units hm hn] at hexponent
  have hwindow : ¬(-5 < (m.scientific (precision - 1)).exponent ∧
      (m.scientific (precision - 1)).exponent < ((some precision).getD 15 : Nat)) := by
    rw [Option.getD_some]
    omega
  simp only [generalFinite, hzero, Bool.false_eq_true, if_false, significant, hwindow]
  have hmem : ∀ s : Text, (if upper then 'E' else 'e') ∈
      withSign negative (s ++ exponentText (m.scientific (precision - 1)).exponent 2 upper) := by
    intro s
    have hlast : (if upper then 'E' else 'e') ∈
        s ++ exponentText (m.scientific (precision - 1)).exponent 2 upper :=
      List.mem_append_right _ List.mem_cons_self
    cases negative with
    | true => exact List.mem_cons_of_mem _ hlast
    | false => exact hlast
  exact hmem _

end General

theorem letter_notMem_integerText (i : Int) (upper : Bool) :
    (if upper then 'E' else 'e') ∉ integerText i := by
  rw [integerText_eq_withSign]
  intro hmem
  have hdigit : (if upper then 'E' else 'e') ∉ digits i.natAbs := fun h => by
    have := isDigit_of_mem_digits h
    cases upper <;> cases this
  unfold withSign at hmem
  split at hmem
  · rcases List.mem_cons.1 hmem with hminus | hmem
    · cases upper <;> exact absurd hminus (by decide)
    · exact hdigit hmem
  · exact hdigit hmem

theorem general_of_finite {n : Number} {x : Finite} (hx : n.toBinary64 = .finite x)
    (culture : Culture) (precision : Nat) (upper : Bool) :
    general culture n (some precision) upper =
      generalFinite culture x (some precision) upper := by
  unfold general
  split
  · next h => cases h
  · rw [hx]

theorem general_integer_iff (culture : Culture) {i : Int} (hi : i.natAbs ≤ 2 ^ 127)
    {precision : Nat} (hprecision : (digits i.natAbs).length ≤ precision) (upper : Bool) :
    general culture (integer i) (some precision) upper = integerText i ↔ IsExact i := by
  obtain ⟨m, hunits, hfinite⟩ := ofInt_eq hi
  obtain ⟨near, hnear⟩ : ∃ near, roundUnits i.natAbs 1 = near := ⟨_, rfl⟩
  rw [hnear] at hunits
  rw [general_of_finite (n := integer i) hfinite, isExact_iff_roundUnits hi, hnear]
  have hpos := List.length_pos_iff.2 (digits_ne_nil i.natAbs)
  rcases Nat.eq_zero_or_pos near with rfl | hpos'
  · have hzero : i = 0 := by
      by_contra hne
      have hpos := roundUnits_one_pos (Int.natAbs_pos.2 hne)
      omega
    subst hzero
    have hnone : m.isZero = true := by simp [Magnitude.isZero_of_units hunits]
    simp only [generalFinite, hnone, if_true]
    exact iff_of_true rfl rfl
  rcases Nat.lt_or_ge precision (digits near).length with hmore | hfew
  · refine iff_of_false (fun h => letter_notMem_integerText i upper ?_) (fun h => ?_)
    · rw [← h]
      exact exponent_mem_generalFinite hunits hpos' hmore
    · rw [h] at hmore
      omega
  · rw [generalFinite_of_units hunits hpos' hfew, integerText_eq_withSign, withSign_digits_inj]
    exact and_iff_right rfl

/-! ## Both formats -/

/-- With a precision for all its digits, `G` writes an integer with its text and `E` writes a
numeral that denotes it, each exactly if the integer is a floating point number: if its bits beyond
a significand are zero. -/
theorem format_integer_exact_iff (i : Json.Integer) (precision : Nat) :
    ((digits i.val.natAbs).length ≤ precision →
      ∀ culture format, IsStandard format 'G' (some precision) →
        ∃ s, Number.format culture format (integer i.val) = some (.ok s) ∧
          (s = integerText i.val ↔ IsExact i.val)) ∧
    ((digits i.val.natAbs).length ≤ precision + 1 →
      ∀ culture format, culture.HasPlainDecimals → IsStandard format 'E' (some precision) →
        ∃ s r, Number.format culture format (integer i.val) = some (.ok s) ∧
          Numeral.read? culture.decimalSeparator s = some r ∧
          (r.value = i.val ↔ IsExact i.val)) ∧
    (IsExact i.val ↔ 2 ^ (i.val.natAbs.log2 - 52) ∣ i.val.natAbs) ∧
    (i.val.natAbs ≤ 2 ^ 53 → IsExact i.val) := by
  have hi := i.natAbs_le
  refine ⟨fun hprecision culture format hformat => ?_,
    fun hprecision culture format hculture hformat => ?_, isExact_iff_dvd hi, isExact_of_le⟩
  · obtain ⟨c, hc, heq⟩ := hformat.formatFinite_eq culture (integer i.val)
    have hpos : 0 < precision := (List.length_pos_iff.2 (digits_ne_nil _)).trans_le hprecision
    have hfilter : (some precision).filter (0 < ·) = some precision := by simp [hpos]
    simp only [standard, hc, hfilter] at heq
    exact ⟨_, heq, general_integer_iff culture hi hprecision _⟩
  · obtain ⟨c, hc, heq⟩ := hformat.formatFinite_eq culture (integer i.val)
    simp only [standard, hc, Option.getD_some] at heq
    obtain ⟨r, hread, hvalue⟩ := scientific_integer_iff hculture hi hprecision c.isUpper
    exact ⟨_, r, heq, hread, hvalue⟩

/-- An integer of 64 bits whose last eleven bits are zero. -/
theorem format_integer_exact_iff_great :
    (digits 9223372036854777856).length ≤ 18 + 1 ∧
      IsStandard "G19" 'G' (some 19) ∧ IsStandard "e18" 'E' (some 18) ∧
      Culture.de.HasPlainDecimals ∧ 2 ^ (Nat.log2 9223372036854777856 - 52) ∣ 9223372036854777856 ∧
      Number.format .invariant "G19" (integer 9223372036854777856) =
        some (.ok (integerText 9223372036854777856)) ∧
      ∃ s r, Number.format .de "e18" (integer 9223372036854777856) = some (.ok s) ∧
        Numeral.read? Culture.de.decimalSeparator s = some r ∧
          r.value = (9223372036854777856 : Int) := by
  have hcount : (digits 9223372036854777856).length ≤ 18 + 1 := by decide
  have hdvd : 2 ^ (Nat.log2 9223372036854777856 - 52) ∣ 9223372036854777856 := by decide
  have hgeneral : IsStandard "G19" 'G' (some 19) := ⟨'G', "19", rfl, rfl, rfl⟩
  have hscientific : IsStandard "e18" 'E' (some 18) := ⟨'e', "18", rfl, rfl, rfl⟩
  have hdecimals := Culture.hasPlainDecimals_de
  have hG := format_integer_exact_iff ⟨9223372036854777856, by decide, by decide⟩ 19
  have hE := format_integer_exact_iff ⟨9223372036854777856, by decide, by decide⟩ 18
  have hexact : IsExact 9223372036854777856 := hG.2.2.1.2 hdvd
  obtain ⟨s, hs, hiff⟩ := hG.1 hcount .invariant "G19" hgeneral
  obtain ⟨t, r, ht, hr, hiff'⟩ := hE.2.1 hcount .de "e18" hdecimals hscientific
  exact ⟨hcount, hgeneral, hscientific, hdecimals, hdvd, hs.trans (by rw [hiff.2 hexact]), t, r, ht,
    hr, hiff'.2 hexact⟩

/-- The least natural that is no floating point number: it comes out one less. -/
theorem format_integer_ne_text :
    (digits 9007199254740993).length = 16 ∧
      Number.format .invariant "G16" (integer 9007199254740993) =
        some (.ok "9007199254740992") ∧
      integerText 9007199254740993 = "9007199254740993" ∧
      Number.format .invariant "E15" (integer 9007199254740993) =
        some (.ok "9.007199254740992E+015") ∧
      ∃ r, Numeral.read? Culture.invariant.decimalSeparator "9.007199254740992E+015" = some r ∧
        r.value = 9007199254740992 := by
  obtain ⟨m, hunits, hm⟩ := ofInt_eq (by decide : (9007199254740993 : Int).natAbs ≤ 2 ^ 127)
  have hround : roundUnits (9007199254740993 : Int).natAbs 1 = 9007199254740992 := by decide
  rw [hround] at hunits
  have hfinite : (integer 9007199254740993).toBinary64 = .finite ⟨false, m⟩ := hm
  have hzero : m.isZero = false := (Magnitude.isZero_of_units hunits).trans (by decide)
  have hdigits : m.scientific 15 = ⟨9007199254740992, 15⟩ :=
    (Magnitude.scientific_of_units hunits (by decide)
      (by decide : (digits 9007199254740992).length ≤ 15 + 1)).trans (by decide)
  have hgeneral : general .invariant (integer 9007199254740993) (some 16) true =
      "9007199254740992" := by
    have hrow : significant m (some 16) = (("9007199254740992" : Text), (15 : Int)) := by
      show ((m.scientific 15).text, (m.scientific 15).exponent) = _
      rw [hdigits]
      rfl
    rw [general_of_finite hfinite, generalFinite, hzero, hrow]
    rfl
  have hscientific : scientific .invariant (integer 9007199254740993) 15 true =
      "9.007199254740992E+015" := by
    simp only [scientific, hfinite, hdigits, Bool.false_and]
    rfl
  refine ⟨by decide, congrArg (some ∘ Except.ok) hgeneral, by decide,
    congrArg (some ∘ Except.ok) hscientific,
    ⟨⟨false, "9", "007199254740992"⟩, some 15⟩, by decide, ?_⟩
  have hvalue : valueOf ("9" ++ "007199254740992") = 9007199254740992 := by decide
  have hlength : ("007199254740992" : Text).length = 15 := by decide
  simp only [Numeral.value, Fixed.value, hvalue, hlength, Option.getD_some]
  norm_num

end Number

end Phrasebook
