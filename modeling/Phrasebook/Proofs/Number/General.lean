import Phrasebook.Proofs.Number.Exactness

/-!
# General notation

General notation writes significant digits in one of four layouts: around the point, with zeros up
to the point, with zeros behind it, or with an exponent. All four are the text of one numeral, whose
value is that of the digits with their exponent.
-/

namespace Phrasebook.Number

open Binary64

attribute [local irreducible] ofUnits unitsOfOne unitLimit

/-! ## Significant digits -/

section Significant

variable {m : Magnitude}

/-- The significant digits are those of a positive number without the zeros at their end. -/
theorem exists_significant (hm : m.isZero = false) (precision : Option Nat) :
    ∃ n, 0 < n ∧ (significant m precision).1 = Text.dropEndWhile (· == '0') (digits n) := by
  have htext : ∀ s : Scientific, 0 < s.digits →
      ∃ n, 0 < n ∧ s.text = Text.dropEndWhile (· == '0') (digits n) :=
    fun s hs => ⟨s.digits, hs, Scientific.text_eq hs⟩
  cases precision with
  | some precision => exact htext _ (Magnitude.scientific_digits_pos hm (precision - 1))
  | none => exact htext _ (Magnitude.shortest_digits_pos hm .up)

theorem significant_ne_nil (hm : m.isZero = false) (precision : Option Nat) :
    (significant m precision).1 ≠ [] := by
  obtain ⟨n, hn, hrow⟩ := exists_significant hm precision
  rw [hrow]
  exact dropEndWhile_digits_ne_nil hn

theorem getLast?_significant (hm : m.isZero = false) (precision : Option Nat) :
    (significant m precision).1.getLast? ≠ some '0' := by
  obtain ⟨n, -, hrow⟩ := exists_significant hm precision
  intro hlast
  rw [hrow] at hlast
  exact absurd (Text.eq_false_of_getLast?_dropEndWhile _ _ hlast) (by decide)

end Significant

/-! ## The numeral that is written -/

/-- The numeral of general notation. Inside the window the point stands behind as many digits as the
exponent says, with zeros where there are no digits; outside of it an exponent is shown. -/
def generalNumeral (negative : Bool) (row : Text) (exponent : Int) (limit : Nat) : Numeral :=
  if -5 < exponent ∧ exponent < limit then
    if exponent < 0 then
      ⟨⟨negative, "0", List.replicate (exponent.natAbs - 1) '0' ++ row⟩, none⟩
    else
      let size := exponent.natAbs + 1
      ⟨⟨negative, row.take size ++ List.replicate (size - row.length) '0', row.drop size⟩, none⟩
  else ⟨⟨negative, row.take 1, row.drop 1⟩, some exponent⟩

theorem generalFinite_eq (culture : Culture) {x : Finite} (hzero : x.magnitude.isZero = false)
    (precision : Option Nat) (upper : Bool) :
    generalFinite culture x precision upper =
      let r := generalNumeral x.negative (significant x.magnitude precision).1
        (significant x.magnitude precision).2 (precision.getD 15)
      withSign r.negative
        (joinFraction culture r.whole r.fraction ++ exponentPart 2 upper r.exponent) := by
  simp only [generalFinite, hzero, Bool.false_eq_true, if_false, generalNumeral]
  split_ifs with hwindow hnegative hsize
  · simp [exponentPart]
  · have hfill : (significant x.magnitude precision).2.natAbs + 1 -
        (significant x.magnitude precision).1.length = 0 := by omega
    simp [exponentPart, hfill]
  · have hrow := Nat.not_lt.1 hsize
    simp [exponentPart, joinFraction, List.take_of_length_le hrow, List.drop_eq_nil_of_le hrow]
  · rfl

section Numeral

variable {row : Text} (exponent : Int) (negative : Bool) (limit : Nat)

theorem exponent_generalNumeral :
    (generalNumeral negative row exponent limit).exponent.isSome ↔
      exponent < -4 ∨ limit ≤ exponent := by
  unfold generalNumeral
  split_ifs with hwindow hnegative
  · simp only [Option.isSome_none, Bool.false_eq_true, false_iff]
    omega
  · simp only [Option.isSome_none, Bool.false_eq_true, false_iff]
    omega
  · simp only [Option.isSome_some, true_iff]
    omega

/-- All digits of the numeral are digits of the row or zeros that fill it up. -/
theorem isDigit_generalNumeral (hrow : ∀ c ∈ row, c.isDigit = true) :
    (generalNumeral negative row exponent limit).HasDigits := by
  have hzeros : ∀ count, ∀ c ∈ List.replicate count '0', c.isDigit = true := fun count c hc =>
    List.eq_of_mem_replicate hc ▸ rfl
  have htake : ∀ size, ∀ c ∈ row.take size, c.isDigit = true := fun size c hc =>
    hrow c (List.mem_of_mem_take hc)
  have hdrop : ∀ size, ∀ c ∈ row.drop size, c.isDigit = true := fun size c hc =>
    hrow c (List.mem_of_mem_drop hc)
  unfold generalNumeral
  split_ifs
  all_goals simp only [Fixed.HasDigits, List.mem_append, or_imp, forall_and]
  · exact ⟨hzeros 1, hzeros _, hrow⟩
  · exact ⟨⟨htake _, hzeros _⟩, hdrop _⟩
  · exact ⟨htake _, hdrop _⟩

theorem whole_generalNumeral_ne_nil (hne : row ≠ []) :
    (generalNumeral negative row exponent limit).whole ≠ [] := by
  obtain ⟨c, rest, rfl⟩ := List.exists_cons_of_ne_nil hne
  unfold generalNumeral
  split_ifs <;> simp

/-- A fraction ends with the last digit of the row. -/
theorem getLast?_fraction_generalNumeral (hne : row ≠ []) (hlast : row.getLast? ≠ some '0') :
    (generalNumeral negative row exponent limit).fraction.getLast? ≠ some '0' := by
  have hdrop : ∀ size, (row.drop size).getLast? ≠ some '0' := by
    intro size hsize
    rw [List.getLast?_drop] at hsize
    split at hsize
    · cases hsize
    · exact hlast hsize
  unfold generalNumeral
  split_ifs
  · rwa [List.getLast?_append_of_ne_nil _ hne]
  · exact hdrop _
  · exact hdrop 1

/-- Each layout shifts the digits of the row to where the exponent says. -/
theorem unsigned_generalNumeral (hne : row ≠ []) :
    (valueOf ((generalNumeral negative row exponent limit).whole ++
          (generalNumeral negative row exponent limit).fraction) : ℚ) /
        10 ^ (generalNumeral negative row exponent limit).fraction.length *
        10 ^ (generalNumeral negative row exponent limit).exponent.getD 0 =
      valueOf row * 10 ^ (exponent - row.length + 1) := by
  have hpos := List.length_pos_iff.2 hne
  have hdiv : ∀ (v : ℚ) (count : Nat), v / 10 ^ count = v * 10 ^ (-(count : Int)) := by
    intro v count
    rw [zpow_neg, zpow_natCast, div_eq_mul_inv]
  unfold generalNumeral
  split_ifs with hwindow hnegative
  · have hvalue : valueOf ("0" ++ (List.replicate (exponent.natAbs - 1) '0' ++ row)) =
        valueOf row := by
      rw [valueOf_append, valueOf_append, valueOf_replicate_zero]
      simp [valueOf, digitValue]
    rw [hvalue, hdiv, Option.getD_none, zpow_zero, mul_one, List.length_append,
      List.length_replicate]
    congr 2
    omega
  · dsimp only
    rw [Option.getD_none, zpow_zero, mul_one, hdiv]
    rcases Nat.lt_or_ge (exponent.natAbs + 1) row.length with hlt | hge
    · have hfill : exponent.natAbs + 1 - row.length = 0 := by omega
      rw [hfill, List.replicate_zero, List.append_nil, List.take_append_drop, List.length_drop]
      congr 2
      omega
    · have hshift : exponent - row.length + 1 =
          ((exponent.natAbs + 1 - row.length : Nat) : Int) := by
        omega
      rw [List.take_of_length_le hge, List.drop_eq_nil_of_le hge, List.append_nil, valueOf_append,
        valueOf_replicate_zero, List.length_replicate, List.length_nil, hshift, zpow_natCast]
      push_cast
      ring
  · rw [List.take_append_drop, List.length_drop, hdiv, Option.getD_some, mul_assoc,
      ← zpow_add₀ (by norm_num)]
    congr 2
    omega

theorem negative_generalNumeral :
    (generalNumeral negative row exponent limit).negative = negative := by
  unfold generalNumeral
  split_ifs <;> rfl

theorem value_generalNumeral (hne : row ≠ []) :
    (generalNumeral negative row exponent limit).value =
      (if negative then -1 else 1) * (valueOf row * 10 ^ (exponent - row.length + 1)) := by
  rw [Numeral.value, Fixed.value, mul_assoc, unsigned_generalNumeral exponent negative limit hne,
    negative_generalNumeral]

end Numeral

theorem read?_generalFinite {culture : Culture} (hculture : culture.HasPlainDecimals) {x : Finite}
    (hzero : x.magnitude.isZero = false) (precision : Option Nat) (upper : Bool) :
    Numeral.read? culture.decimalSeparator (generalFinite culture x precision upper) =
      some (generalNumeral x.negative (significant x.magnitude precision).1
        (significant x.magnitude precision).2 (precision.getD 15)) := by
  have hdigits := isDigit_generalNumeral (significant x.magnitude precision).2 x.negative
    (precision.getD 15) fun c (hc : c ∈ (significant x.magnitude precision).1) =>
      isDigit_of_mem_significant hc
  have hwhole := whole_generalNumeral_ne_nil (significant x.magnitude precision).2 x.negative
    (precision.getD 15) (significant_ne_nil hzero precision)
  rw [generalFinite_eq culture hzero]
  exact read?_numeral hculture _ hwhole (fun c hc => hdigits c (List.mem_append_left _ hc))
    (fun c hc => hdigits c (List.mem_append_right _ hc)) _

/-! ## Formats -/

/-- A number that is not zero is written by the digits of a magnitude that is not zero either. -/
theorem exists_toBinary64_eq {n : Number} (hn : n.IsStored) (hzero : n.isZero = false) :
    ∃ x : Finite, n.toBinary64 = .finite x ∧ x.magnitude.isZero = false ∧
      x.negative = n.isNegative := by
  match n with
  | integer i =>
      obtain ⟨m, hunits, hfinite⟩ := ofInt_eq (natAbs_le_of_isWide hn)
      have hne : i ≠ 0 := by simpa [isZero] using hzero
      have hpos := roundUnits_one_pos (Int.natAbs_pos.2 hne)
      exact ⟨_, hfinite, Magnitude.isZero_of_units_of_pos hunits hpos, rfl⟩
  | float .nan => exact hn.elim
  | float (.infinite _) => exact hn.elim
  | float (.finite x) =>
      have hnone : x.magnitude.isZero = false := hzero
      exact ⟨x, rfl, hnone, by simp [isNegative, Binary64.isNegative, hnone]⟩

/-- Whether a format is general notation with this precision. A precision of zero counts as none. -/
def IsGeneral (format : Text) (precision : Option Nat) : Prop :=
  (∃ given, IsStandard format 'G' given ∧ given.filter (0 < ·) = precision) ∨
    (precision = none ∧ ∃ given, IsStandard format 'R' given)

theorem IsGeneral.formatFinite_eq {format : Text} {precision : Option Nat}
    (h : IsGeneral format precision) (culture : Culture) (n : Number) :
    ∃ upper, formatFinite culture format n = some (.ok (general culture n precision upper)) := by
  rcases h with ⟨given, hformat, rfl⟩ | ⟨rfl, given, hformat⟩
  · obtain ⟨c, hc, heq⟩ := hformat.formatFinite_eq culture n
    exact ⟨c.isUpper, by simpa only [standard, hc] using heq⟩
  · obtain ⟨c, hc, heq⟩ := hformat.formatFinite_eq culture n
    exact ⟨true, by simpa only [standard, hc] using heq⟩

theorem general_eq_generalFinite {n : Number} {x : Finite} (hx : n.toBinary64 = .finite x)
    {precision : Option Nat} (hfloat : precision = none → ∃ y, n = float y) (culture : Culture)
    (upper : Bool) :
    general culture n precision upper = generalFinite culture x precision upper := by
  cases precision with
  | some precision => exact general_of_finite hx culture precision upper
  | none =>
      obtain ⟨y, rfl⟩ := hfloat rfl
      obtain rfl : y = .finite x := hx
      rfl

/-- General notation is a numeral with exactly the value of the significant digits and their
exponent. It shows an exponent only outside of the window, and no fraction that ends in zero. An
integer without a precision is left out, as it has no significant digits but all of them. -/
theorem format_general_value {culture : Culture} (hculture : culture.HasPlainDecimals) {n : Number}
    (hn : n.IsStored) (hzero : n.isZero = false) {format : Text} {precision : Option Nat}
    (hformat : IsGeneral format precision) (hfloat : precision = none → ∃ y, n = float y) :
    ∃ (x : Finite) (s : Text) (r : Numeral) (row : Text) (exponent : Int),
      n.toBinary64 = .finite x ∧ significant x.magnitude precision = (row, exponent) ∧
      Number.format culture format n = some (.ok s) ∧
      Numeral.read? culture.decimalSeparator s = some r ∧
      r.value = (if n.isNegative then -1 else 1) *
        (valueOf row * 10 ^ (exponent - row.length + 1)) ∧
      (r.exponent.isSome ↔ exponent < -4 ∨ (precision.getD 15 : Nat) ≤ exponent) ∧
      r.fraction.getLast? ≠ some '0' := by
  obtain ⟨x, hx, hmagnitude, hsign⟩ := exists_toBinary64_eq hn hzero
  obtain ⟨upper, htext⟩ := hformat.formatFinite_eq culture n
  have hread := read?_generalFinite hculture hmagnitude precision upper
  have hne := significant_ne_nil hmagnitude precision
  have hlast := getLast?_significant hmagnitude precision
  obtain ⟨row, exponent, hrow⟩ : ∃ row exponent,
      significant x.magnitude precision = (row, exponent) := ⟨_, _, rfl⟩
  rw [hrow] at hread hne hlast
  rw [general_eq_generalFinite hx hfloat] at htext
  have hformat' := (hn.isBounded.isFinite.format_eq culture format).trans htext
  refine ⟨x, _, _, row, exponent, hx, hrow, hformat', hread, ?_,
    exponent_generalNumeral exponent _ _, getLast?_fraction_generalNumeral exponent _ _ hne hlast⟩
  rw [value_generalNumeral exponent _ _ hne, hsign]

/-- The shortest digits of a float behind leading zeros, and three digits of a great integer. -/
theorem format_general_value_samples :
    Culture.de.HasPlainDecimals ∧
      (∃ (x : Finite) (r : Numeral), ofRatio true 625 1000000 = .finite x ∧
        (float (.finite x)).IsStored ∧ (float (.finite x)).isZero = false ∧ IsGeneral "R" none ∧
        Number.format .de "R" (float (.finite x)) = some (.ok "-0,000625") ∧
        Numeral.read? Culture.de.decimalSeparator "-0,000625" = some r ∧
        r.value = -1 * (625 * 10 ^ (-4 - 3 + 1 : Int))) ∧
      ((integer 1234567).IsStored ∧ (integer 1234567).isZero = false ∧ IsGeneral "g3" (some 3) ∧
        ∃ r, Number.format .de "g3" (integer 1234567) = some (.ok "1,23e+06") ∧
          Numeral.read? Culture.de.decimalSeparator "1,23e+06" = some r ∧
          r.value = 1 * (123 * 10 ^ (6 - 3 + 1 : Int)) ∧ r.exponent.isSome) := by
  have hdecimals := Culture.hasPlainDecimals_de
  have hshortest : IsGeneral "R" none := .inr ⟨rfl, none, 'R', [], rfl, rfl, rfl⟩
  have hthree : IsGeneral "g3" (some 3) := .inl ⟨some 3, ⟨'g', "3", rfl, rfl, rfl⟩, rfl⟩
  refine ⟨hdecimals, ?_, ?_⟩
  · obtain ⟨m, hm, hrow⟩ : ∃ m, ofRatio true 625 1000000 = .finite ⟨true, m⟩ ∧
        significant m none = (("625" : Text), (-4 : Int)) :=
      ⟨⟨5764607523034235 * 2 ^ 1011, by decide +kernel, by decide +kernel⟩,
        by decide +kernel, by decide +kernel⟩
    have hzero : m.isZero = false := by
      have hsize : (ofRatio true 625 1000000).isZero = false := by decide +kernel
      rwa [hm] at hsize
    have hnumber : (float (.finite ⟨true, m⟩)).IsStored := trivial
    have hsign : (float (.finite ⟨true, m⟩)).isNegative = true := congrArg (! ·) hzero
    have htext : Number.format .de "R" (float (.finite ⟨true, m⟩)) = some (.ok "-0,000625") := by
      have hgeneral : generalFinite .de ⟨true, m⟩ none true = "-0,000625" := by
        rw [generalFinite, hzero, hrow]
        rfl
      exact congrArg (some ∘ Except.ok) hgeneral
    obtain ⟨y, s, r, row, exponent, hy, hrow', hs, hread, hvalue, -⟩ :=
      format_general_value hdecimals hnumber hzero hshortest fun _ => ⟨_, rfl⟩
    obtain rfl := Binary64.finite.inj hy
    obtain rfl := Except.ok.inj (Option.some.inj (htext.symm.trans hs))
    obtain ⟨rfl, rfl⟩ := Prod.mk.inj (hrow.symm.trans hrow')
    have hvalueOf : valueOf "625" = 625 := by decide
    rw [hsign, if_pos rfl, hvalueOf] at hvalue
    exact ⟨_, r, hm, hnumber, hzero, hshortest, htext, hread, hvalue⟩
  · have hstored : (integer 1234567).IsStored := (by decide : IsWide 1234567)
    have hzero : (integer 1234567).isZero = false := by decide
    obtain ⟨m, hm, hrow⟩ : ∃ m, (integer 1234567).toBinary64 = .finite ⟨false, m⟩ ∧
        significant m (some 3) = (("123" : Text), (6 : Int)) :=
      ⟨⟨1234567 * unitsOfOne, by decide +kernel, by decide +kernel⟩,
        by decide +kernel, by decide +kernel⟩
    have hmagnitude : m.isZero = false := by
      have hsize : (integer 1234567).toBinary64.isZero = false := by decide +kernel
      rwa [hm] at hsize
    have htext : Number.format .de "g3" (integer 1234567) = some (.ok "1,23e+06") := by
      have hgeneral : general .de (integer 1234567) (some 3) false = "1,23e+06" := by
        rw [general_of_finite hm, generalFinite, hmagnitude, hrow]
        rfl
      exact congrArg (some ∘ Except.ok) hgeneral
    obtain ⟨y, s, r, row, exponent, hy, hrow', hs, hread, hvalue, hexponent, -⟩ :=
      format_general_value hdecimals hstored hzero hthree nofun
    obtain rfl := Binary64.finite.inj (hm.symm.trans hy)
    obtain rfl := Except.ok.inj (Option.some.inj (htext.symm.trans hs))
    obtain ⟨rfl, rfl⟩ := Prod.mk.inj (hrow.symm.trans hrow')
    have hvalueOf : valueOf "123" = 123 := by decide
    rw [hvalueOf] at hvalue
    exact ⟨hstored, hzero, hthree, r, htext, hread, hvalue, hexponent.2 (.inr (by decide))⟩

end Phrasebook.Number
