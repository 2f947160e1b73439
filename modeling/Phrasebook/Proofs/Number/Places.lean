import Phrasebook.Culture.Tables
import Phrasebook.Proofs.Number.Grouping
import Phrasebook.Proofs.Number.Section

/-!
# Digits over places

Every token of a section writes a text of its own, and the text of the section is made of these. An
integer loses and repeats no digit: its row of digits, filled up with zeros, is what the integer
places write, each one the digit as far from the right as it stands itself.
-/

namespace Phrasebook.Number

/-! ## The texts of tokens -/

/-- The text of a token that is neither a place nor the first point. -/
def Token.markText (exponent : Int) : Token → Text
  | .percent => "%"
  | .perMille => "‰"
  | .exponent upper alwaysSigned width =>
    emitFraction.customExponent upper alwaysSigned width exponent
  | .literal s => s
  | _ => []

/-- The texts of the tokens behind the point, where `seen` fraction places came before. -/
def fractionTexts (d : Digits) : (seen : Nat) → List Token → List Text
  | _, [] => []
  | seen, t :: ts =>
    if t.isDigit then (d.fraction.drop seen).take 1 :: fractionTexts d (seen + 1) ts
    else t.markText d.exponent :: fractionTexts d seen ts

/-- The texts of all tokens, where `seen` integer places came before. -/
def tokenTexts (culture : Culture) (layout : Layout) (d : Digits) :
    (seen : Nat) → List Token → List Text
  | _, [] => []
  | seen, t :: ts =>
    if t.isDigit then placeText culture layout d seen :: tokenTexts culture layout d (seen + 1) ts
    else if t = .point then pointText culture layout d :: fractionTexts d 0 ts
    else t.markText d.exponent :: tokenTexts culture layout d seen ts

theorem flatten_fractionTexts (d : Digits) (seen : Nat) (ts : List Token) :
    (fractionTexts d seen ts).flatten = emitFraction d seen ts := by
  induction ts generalizing seen with
  | nil => rfl
  | cons t ts ih =>
      cases t <;> simp [fractionTexts, emitFraction, Token.isDigit, Token.markText, ih]

theorem flatten_tokenTexts (culture : Culture) (layout : Layout) (d : Digits) (seen : Nat)
    (ts : List Token) :
    (tokenTexts culture layout d seen ts).flatten = emitInteger culture layout d seen ts := by
  induction ts generalizing seen with
  | nil => rfl
  | cons t ts ih =>
      cases t <;>
        simp [tokenTexts, emitInteger, Token.isDigit, Token.markText, flatten_fractionTexts, ih]

section Texts

variable {culture : Culture} {layout : Layout} {d : Digits}

theorem length_fractionTexts (seen : Nat) (ts : List Token) :
    (fractionTexts d seen ts).length = ts.length := by
  induction ts generalizing seen with
  | nil => rfl
  | cons t ts ih =>
      unfold fractionTexts
      split <;> simp [ih]

theorem length_tokenTexts (seen : Nat) (ts : List Token) :
    (tokenTexts culture layout d seen ts).length = ts.length := by
  induction ts generalizing seen with
  | nil => rfl
  | cons t ts ih =>
      unfold tokenTexts
      split_ifs <;> simp [ih, length_fractionTexts]

/-- A literal writes itself wherever it stands. -/
theorem getElem?_fractionTexts_literal {seen k : Nat} {ts : List Token} {s : Text}
    (h : ts[k]? = some (.literal s)) : (fractionTexts d seen ts)[k]? = some s := by
  induction ts generalizing seen k with
  | nil => simp at h
  | cons t ts ih =>
      cases k with
      | zero =>
          obtain rfl : t = .literal s := by simpa using h
          rfl
      | succ k =>
          have hrest : ∀ seen, (fractionTexts d seen ts)[k]? = some s := fun _ =>
            ih (by simpa using h)
          unfold fractionTexts
          split <;> simpa using hrest _

theorem getElem?_tokenTexts_literal {seen k : Nat} {ts : List Token} {s : Text}
    (h : ts[k]? = some (.literal s)) : (tokenTexts culture layout d seen ts)[k]? = some s := by
  induction ts generalizing seen k with
  | nil => simp at h
  | cons t ts ih =>
      cases k with
      | zero =>
          obtain rfl : t = .literal s := by simpa using h
          rfl
      | succ k =>
          have htail : ts[k]? = some (.literal s) := by simpa using h
          have hrest : ∀ seen, (tokenTexts culture layout d seen ts)[k]? = some s := fun _ =>
            ih htail
          unfold tokenTexts
          split_ifs
          · simpa using hrest _
          · simpa using getElem?_fractionTexts_literal htail
          · simpa using hrest _

/-- The first point stands behind the integer part. -/
theorem getElem?_tokenTexts_point {seen : Nat} {ts : List Token} (h : .point ∈ ts) :
    (tokenTexts culture layout d seen ts)[(Token.integerPart ts).length]? =
      some (pointText culture layout d) := by
  induction ts generalizing seen with
  | nil => cases h
  | cons t ts ih =>
      by_cases ht : t = .point
      · subst ht
        rfl
      · have hrest : ∀ seen, (tokenTexts culture layout d seen ts)[(Token.integerPart ts).length]? =
            some (pointText culture layout d) := fun _ => ih (by simpa [Ne.symm ht] using h)
        have hpart : Token.integerPart (t :: ts) = t :: Token.integerPart ts := by
          simp [Token.integerPart, ht]
        rw [hpart, List.length_cons, tokenTexts, if_neg ht]
        split <;> simpa using hrest _

/-- The texts, of all those of the tokens, that the integer places write. -/
def placeTexts (ts : List Token) (texts : List Text) : List Text :=
  (((Token.integerPart ts).zip texts).filter (·.1.isDigit)).map Prod.snd

theorem placeTexts_tokenTexts (seen : Nat) (ts : List Token) :
    placeTexts ts (tokenTexts culture layout d seen ts) =
      (List.range' seen ((Token.integerPart ts).filter Token.isDigit).length).map
        (placeText culture layout d) := by
  induction ts generalizing seen with
  | nil => rfl
  | cons t ts ih =>
      by_cases ht : t = .point
      · subst ht
        rfl
      · have hpart : Token.integerPart (t :: ts) = t :: Token.integerPart ts := by
          simp [Token.integerPart, ht]
        have hrest := ih seen
        have hnext := ih (seen + 1)
        unfold placeTexts at hrest hnext ⊢
        rw [hpart, tokenTexts, if_neg ht]
        cases hdigit : t.isDigit with
        | true => simp [hdigit, hnext, List.range'_succ]
        | false => simp [hdigit, hrest]

end Texts

/-! ## Rows of digits -/

section Rows

variable {places : Nat} (row : Text)

/-- The places from number `k` on, which is not the first one, show the last digits. -/
theorem flatten_digitsAt_range' {k : Nat} (hk : 0 < k) (hle : k ≤ places) :
    ((List.range' k (places - k)).map (digitsAt places · row)).flatten =
      row.drop (row.length + k - places) := by
  obtain ⟨rest, hrest⟩ : ∃ rest, places - k = rest := ⟨_, rfl⟩
  induction rest generalizing k with
  | zero =>
      have hall : row.length + k - places = row.length := by omega
      simp [hrest, hall]
  | succ rest ih =>
      have hnext := ih (Nat.succ_pos k) (by omega) (by omega)
      have hcount : places - (k + 1) = rest := by omega
      rw [hcount] at hnext
      rw [hrest, List.range'_succ, List.map_cons, List.flatten_cons, hnext, digitsAt,
        if_neg hk.ne']
      split
      · have hsucc : row.length + (k + 1) - places = row.length + k - places + 1 := by omega
        rw [hsucc, ← List.drop_drop, List.take_append_drop]
      · have hzero : row.length + (k + 1) - places = row.length + k - places := by omega
        rw [hzero, List.nil_append]

/-- All places together show all digits. -/
theorem flatten_digitsAt (hpos : 0 < places) :
    ((List.range' 0 places).map (digitsAt places · row)).flatten = row := by
  obtain ⟨rest, rfl⟩ := Nat.exists_eq_add_one_of_ne_zero hpos.ne'
  have hrest := @flatten_digitsAt_range' (rest + 1) row 1 Nat.one_pos (by omega)
  rw [Nat.add_sub_cancel] at hrest
  rw [List.range'_succ, List.map_cons, List.flatten_cons, hrest, digitsAt, if_pos rfl,
    List.take_append_drop]

/-- Counted from the right, a place shows the digit at the same position, and the first place all
digits from there on. -/
theorem digitsAt_from_right {j : Nat} (hj : j < places) :
    digitsAt places (places - 1 - j) row =
      if j + 1 = places then row.take (row.length - j) else row.reverse[j]?.toList := by
  unfold digitsAt
  by_cases hfirst : j + 1 = places
  · have hzero : places - 1 - j = 0 := by omega
    rw [if_pos hzero, if_pos hfirst]
    congr 1
    omega
  · rw [if_neg (by omega), if_neg hfirst]
    split
    · next hle =>
        have hindex : row.length + (places - 1 - j) - places = row.length - 1 - j := by omega
        rw [hindex, List.getElem?_reverse (by omega), List.take_one, List.head?_drop]
    · next hgreat =>
        rw [List.getElem?_eq_none (by rw [List.length_reverse]; omega)]
        rfl

end Rows

/-- Nothing but zeros shows all digits. -/
theorem emitInteger_replicate_zero {culture : Culture} {layout : Layout} {d : Digits}
    (hgrouping : layout.grouping = false) (hpos : 0 < layout.places) :
    emitInteger culture layout d 0 (List.replicate layout.places .zero) = d.whole := by
  have htexts : ∀ seen count, tokenTexts culture layout d seen (List.replicate count .zero) =
      (List.range' seen count).map (digitsAt layout.places · d.whole) := by
    intro seen count
    induction count generalizing seen with
    | zero => rfl
    | succ count ih =>
        have hzero : Token.zero.isDigit = true := rfl
        rw [List.replicate_succ, tokenTexts, if_pos hzero, ih, List.range'_succ, List.map_cons,
          placeText, hgrouping]
        rfl
  rw [← flatten_tokenTexts, htexts, flatten_digitsAt d.whole hpos]

/-- The row of digits of an integer: its decimal digits, filled up with zeros for the integer places
from the first zero on. The integer zero without such a place has no digits. -/
def integerRow (ts : List Token) (i : Int) : Text :=
  let zeros := (((Token.integerPart ts).filter Token.isDigit).dropWhile (· != .zero)).length
  if i = 0 ∧ zeros = 0 then [] else paddedDigits zeros i.natAbs

theorem padWhole_digits_eq_integerRow (ts : List Token) (i : Int) :
    padWhole (Layout.ofTokens ts).minInteger (digits i.natAbs) = integerRow ts i := by
  obtain ⟨zeros, hzeros⟩ : ∃ zeros, (Layout.ofTokens ts).minInteger = zeros := ⟨_, rfl⟩
  have hrow : integerRow ts i =
      if i = 0 ∧ (Layout.ofTokens ts).minInteger = 0 then []
      else paddedDigits (Layout.ofTokens ts).minInteger i.natAbs := rfl
  rw [hrow, hzeros]
  cases zeros with
  | zero =>
      by_cases hi : i = 0
      · subst hi
        rfl
      · have hne : digits i.natAbs ≠ ['0'] := by
          rw [Ne, digits_eq_zero_iff]
          omega
        simp [padWhole, paddedDigits, hi, hne]
  | succ zeros =>
      rw [if_neg (by omega)]
      exact padWhole_digits (Nat.succ_pos zeros) i.natAbs

/-- The texts that the tokens of a section without an exponent write for an integer. -/
def integerTexts (culture : Culture) (ts : List Token) (i : Int) : List Text :=
  let layout := Layout.ofTokens ts
  let fraction := trimFraction layout.minFraction (List.replicate layout.maxFraction '0')
  tokenTexts culture layout ⟨integerRow ts i, fraction, 0⟩ 0 ts

section Integers

variable {culture : Culture} {ts : List Token} {i : Int}

theorem placeTexts_integerTexts :
    placeTexts ts (integerTexts culture ts i) =
      (List.range' 0 (Layout.ofTokens ts).places).map fun k =>
        if (Layout.ofTokens ts).grouping then
          if k = 0 then Text.join culture.groupSeparator (thousands (integerRow ts i)) else []
        else digitsAt (Layout.ofTokens ts).places k (integerRow ts i) := by
  rw [← group_eq_join]
  exact placeTexts_tokenTexts 0 ts

theorem placeTexts_of_grouping (hplaces : (Layout.ofTokens ts).places ≠ 0)
    (hgrouping : (Layout.ofTokens ts).grouping = true) :
    placeTexts ts (integerTexts culture ts i) =
      Text.join culture.groupSeparator (thousands (integerRow ts i)) ::
        List.replicate ((Layout.ofTokens ts).places - 1) [] := by
  obtain ⟨rest, hrest⟩ := Nat.exists_eq_add_one_of_ne_zero hplaces
  rw [placeTexts_integerTexts, hrest, List.range'_succ, List.map_cons, hgrouping]
  simp only [if_true, Nat.add_sub_cancel, List.cons.injEq, true_and]
  rw [List.eq_replicate_iff, List.length_map, List.length_range']
  refine ⟨rfl, fun s hs => ?_⟩
  obtain ⟨k, hk, rfl⟩ := List.mem_map.1 hs
  rw [List.mem_range'_1] at hk
  exact if_neg (by omega)

theorem placeTexts_of_not_grouping (hgrouping : (Layout.ofTokens ts).grouping = false) :
    placeTexts ts (integerTexts culture ts i) =
      (List.range' 0 (Layout.ofTokens ts).places).map
        (digitsAt (Layout.ofTokens ts).places · (integerRow ts i)) := by
  rw [placeTexts_integerTexts, hgrouping]
  rfl

/-- Where no integer place stands in front of it, the first point shows the row. -/
theorem exists_pointText_eq (culture : Culture) {layout : Layout} (hplaces : layout.places = 0)
    (d : Digits) :
    ∃ separator, (separator = [] ∨ separator = culture.decimalSeparator) ∧
      pointText culture layout d = d.whole ++ separator := by
  rw [pointText, if_pos hplaces]
  by_cases hfraction : d.fraction.isEmpty
  · exact ⟨[], .inl rfl, by rw [if_pos hfraction]⟩
  · exact ⟨_, .inr rfl, by rw [if_neg hfraction]⟩

end Integers

/-- A section without percent, per mille, exponent and dividing commas writes an integer token by
token, literals as they are. Its integer places show the row of digits: grouped, all of it at the
first place; not grouped, the place number `j` from the right the digit number `j` from the right,
and the first place all that are left over. Without an integer place the row stands at the point. -/
theorem formatSection?_integer (culture : Culture) {ts : List Token} (hpercent : .percent ∉ ts)
    (hperMille : .perMille ∉ ts) (hexponent : ts.any Token.isExponent = false)
    (hdivisions : (Layout.ofTokens ts).divisions = 0) (i : Int) (withMinus : Bool) :
    formatSection? culture ts (integer i) withMinus =
      some (withSign (withMinus && decide (i < 0)) (integerTexts culture ts i).flatten) ∧
    (integerTexts culture ts i).length = ts.length ∧
    (∀ (k : Nat) (s : Text), ts[k]? = some (Token.literal s) →
      (integerTexts culture ts i)[k]? = some s) ∧
    ((Layout.ofTokens ts).places ≠ 0 → (Layout.ofTokens ts).grouping = true →
      placeTexts ts (integerTexts culture ts i) =
        Text.join culture.groupSeparator (thousands (integerRow ts i)) ::
          List.replicate ((Layout.ofTokens ts).places - 1) [] ∧
      (thousands (integerRow ts i)).flatten = integerRow ts i) ∧
    ((Layout.ofTokens ts).places ≠ 0 → (Layout.ofTokens ts).grouping = false →
      (placeTexts ts (integerTexts culture ts i)).flatten = integerRow ts i ∧
      ∀ j < (Layout.ofTokens ts).places,
        (placeTexts ts (integerTexts culture ts i)).reverse[j]? =
          some (if j + 1 = (Layout.ofTokens ts).places then
              (integerRow ts i).take ((integerRow ts i).length - j)
            else (integerRow ts i).reverse[j]?.toList)) ∧
    ((Layout.ofTokens ts).places = 0 → .point ∈ ts →
      ∃ separator, (separator = [] ∨ separator = culture.decimalSeparator) ∧
        (integerTexts culture ts i)[(Token.integerPart ts).length]? =
          some (integerRow ts i ++ separator)) := by
  refine ⟨?_, length_tokenTexts 0 ts, fun k s => getElem?_tokenTexts_literal,
    fun hplaces hgrouping => ⟨placeTexts_of_grouping hplaces hgrouping, flatten_thousands _⟩,
    fun hplaces hgrouping => ?_, fun hplaces hpoint => ?_⟩
  · rw [formatSection?_of_not_exponent hexponent hdivisions, scaleBy_of_notMem hpercent hperMille]
    simp only [fixed, padWhole_digits_eq_integerRow, ← flatten_tokenTexts]
    rfl
  · rw [placeTexts_of_not_grouping hgrouping]
    refine ⟨flatten_digitsAt _ (Nat.pos_of_ne_zero hplaces), fun j hj => ?_⟩
    rw [List.getElem?_reverse (by simpa using hj), List.length_map, List.length_range',
      List.getElem?_map, List.getElem?_range' (by omega), Option.map_some, Nat.zero_add,
      Nat.one_mul, digitsAt_from_right _ hj]
  · obtain ⟨separator, hseparator, htext⟩ := exists_pointText_eq culture hplaces
      ⟨integerRow ts i, _, 0⟩
    exact ⟨separator, hseparator, (getElem?_tokenTexts_point hpoint).trans (congrArg some htext)⟩

/-- Literals between the places of a telephone number, and groups of three digits. -/
theorem formatSection?_integer_telephone :
    Token.percent ∉ Token.ofText "(###) ###-####" ∧ Token.perMille ∉ Token.ofText "(###) ###-####" ∧
      (Token.ofText "(###) ###-####").any Token.isExponent = false ∧
      (Layout.ofTokens (Token.ofText "(###) ###-####")).divisions = 0 ∧
      formatSection? .invariant (Token.ofText "(###) ###-####") (integer (-420305551234)) true =
        some "-(42030) 555-1234" ∧
      (placeTexts (Token.ofText "(###) ###-####")
        (integerTexts .invariant (Token.ofText "(###) ###-####") (-420305551234))).flatten =
          "420305551234" ∧
      formatSection? .invariant (Token.ofText "'#'#,000.#") (integer 1234567) true =
        some "#1,234,567" ∧
      (thousands (integerRow (Token.ofText "'#'#,000.#") 1234567)).flatten = "1234567" := by
  have hpercent : Token.percent ∉ Token.ofText "(###) ###-####" := by decide
  have hperMille : Token.perMille ∉ Token.ofText "(###) ###-####" := by decide
  have hexponent : (Token.ofText "(###) ###-####").any Token.isExponent = false := by decide
  have hdivisions : (Layout.ofTokens (Token.ofText "(###) ###-####")).divisions = 0 := by decide
  obtain ⟨htext, -, -, -, hplain, -⟩ := formatSection?_integer .invariant hpercent hperMille
    hexponent hdivisions (-420305551234) true
  obtain ⟨htext', -, -, hgrouped, -, -⟩ := @formatSection?_integer .invariant
    (Token.ofText "'#'#,000.#") (by decide) (by decide) (by decide) (by decide) 1234567 true
  refine ⟨hpercent, hperMille, hexponent, hdivisions, htext.trans (by decide), ?_,
    htext'.trans (by decide), ?_⟩
  · exact (hplain (by decide) (by decide)).1.trans (by decide)
  · exact (hgrouped (by decide) (by decide)).2.trans (by decide)

end Phrasebook.Number
