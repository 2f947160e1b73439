import Phrasebook.Proofs.Number.Finiteness
import Phrasebook.Proofs.Text.Pieces

/-!
# The characters of a formatted number

A number whose digits are laid out is written with digits, signs, exponent letters, the separators
of the culture and what the format itself holds. The words for what is not finite are laid out in
exactly the cases in which scaling leaves the finite numbers.
-/

namespace Phrasebook.Number

open Binary64

attribute [local irreducible] ofUnits unitsOfOne unitLimit

/-! ## Digits -/

/-- Whether the integer and fraction parts consist of digits. -/
def Fixed.HasDigits (f : Fixed) : Prop := ∀ c ∈ f.whole ++ f.fraction, c.isDigit = true

theorem hasDigits_fixed_iff {n : Number} {decimals : Nat} :
    (n.fixed decimals).HasDigits ↔ n.IsFinite := by
  match n with
  | integer i =>
      refine iff_of_true (fun c hc => ?_) trivial
      rcases List.mem_append.1 hc with hc | hc
      · exact isDigit_of_mem_digits hc
      · rw [List.eq_of_mem_replicate hc]
        rfl
  | float .nan => exact iff_of_false (fun h => absurd (h 'N' List.mem_cons_self) (by decide)) id
  | float (.infinite _) =>
      exact iff_of_false (fun h => absurd (h 'i' List.mem_cons_self) (by decide)) id
  | float (.finite x) =>
      refine iff_of_true (fun c hc => ?_) trivial
      rcases List.mem_append.1 hc with hc | hc
      · exact isDigit_of_mem_digits hc
      · simp only [fixed, Magnitude.fixed] at hc
        split at hc
        · cases hc
        · exact isDigit_of_mem_paddedDigits hc

/-! ## Plain text -/

/-- The text that a token adds to the digits. -/
def Token.ownText : Token → Text
  | .percent => "%"
  | .perMille => "‰"
  | .literal s => s
  | _ => []

/-- The characters that a standard format adds to digits and separators. -/
def standardText (culture : Culture) (letter : Char) : Text :=
  match letter.toUpper with
  | 'C' => culture.currency.erase 'n'
  | 'P' => culture.percent.erase 'n'
  | 'X' => "abcdefABCDEF"
  | _ => []

/-- The characters that a format adds to digits and separators. -/
def ownText (culture : Culture) (format : Text) (n : Number) : Text :=
  match standard? format with
  | some (letter, _) => standardText culture letter
  | none => (choose format n).tokens.flatMap Token.ownText

/-- Whether a text consists of digits, signs, exponent letters, separators of the culture and the
characters in `own`. -/
def IsPlain (culture : Culture) (own s : Text) : Prop :=
  ∀ c ∈ s, c.isDigit = true ∨ c ∈ ("+-Ee" : Text) ∨ c ∈ culture.decimalSeparator ∨
    c ∈ culture.groupSeparator ∨ c ∈ own

section Plain

variable {culture : Culture} {own s t : Text}

theorem isPlain_nil : IsPlain culture own [] := nofun

theorem isPlain_of_digits (h : ∀ c ∈ s, c.isDigit = true) : IsPlain culture own s :=
  fun c hc => .inl (h c hc)

theorem isPlain_digits (n : Nat) : IsPlain culture own (digits n) :=
  isPlain_of_digits fun _ => isDigit_of_mem_digits

theorem isPlain_paddedDigits (width n : Nat) : IsPlain culture own (paddedDigits width n) :=
  isPlain_of_digits fun _ => isDigit_of_mem_paddedDigits

theorem isPlain_of_subset (h : ∀ c ∈ s, c ∈ own) : IsPlain culture own s :=
  fun c hc => .inr (.inr (.inr (.inr (h c hc))))

theorem IsPlain.append (hs : IsPlain culture own s) (ht : IsPlain culture own t) :
    IsPlain culture own (s ++ t) := by
  intro c hc
  rcases List.mem_append.1 hc with hc | hc
  · exact hs c hc
  · exact ht c hc

theorem IsPlain.of_sublist (ht : IsPlain culture own t) (h : s.Sublist t) :
    IsPlain culture own s := fun c hc => ht c (h.subset hc)

theorem IsPlain.cons_mark {c : Char} (hs : IsPlain culture own s) (hc : c ∈ ("+-Ee" : Text)) :
    IsPlain culture own (c :: s) := by
  intro d hd
  rcases List.mem_cons.1 hd with rfl | hd
  · exact .inr (.inl hc)
  · exact hs d hd

theorem IsPlain.withSign (hs : IsPlain culture own s) (negative : Bool) :
    IsPlain culture own (withSign negative s) := by
  unfold Number.withSign
  split
  · exact hs.cons_mark (by decide)
  · exact hs

theorem IsPlain.joinFraction (hs : IsPlain culture own s) (ht : IsPlain culture own t) :
    IsPlain culture own (joinFraction culture s t) := by
  unfold Number.joinFraction
  split
  · exact hs
  · exact (hs.append fun c hc => .inr (.inr (.inl hc))).append ht

theorem IsPlain.group (hs : IsPlain culture own s) :
    IsPlain culture own (group culture.groupSeparator s) := by
  induction s with
  | nil => exact hs
  | cons c s ih =>
      have hc : IsPlain culture own [c] := hs.of_sublist (by simp)
      have hrest := ih (hs.of_sublist (List.sublist_cons_self c s))
      have hseparator : IsPlain culture own culture.groupSeparator :=
        fun d hd => .inr (.inr (.inr (.inl hd)))
      unfold Number.group
      split
      · exact hc.append (hseparator.append hrest)
      · exact hc.append hrest

theorem isPlain_exponentText (exponent : Int) (width : Nat) (upper : Bool) :
    IsPlain culture own (exponentText exponent width upper) := by
  have hdigits : IsPlain culture own (paddedDigits width exponent.natAbs) :=
    isPlain_paddedDigits _ _
  unfold exponentText
  refine IsPlain.cons_mark (IsPlain.cons_mark hdigits ?_) ?_
  · split <;> decide
  · split <;> decide

theorem isPlain_customExponent (upper alwaysSigned : Bool) (width : Nat) (exponent : Int) :
    IsPlain culture own (emitFraction.customExponent upper alwaysSigned width exponent) := by
  have hdigits : IsPlain culture own (paddedDigits width exponent.natAbs) :=
    isPlain_paddedDigits _ _
  have hsign : IsPlain culture own
      (if exponent < 0 then ['-'] else if alwaysSigned then ['+'] else []) := by
    split_ifs
    · exact isPlain_nil.cons_mark (by decide)
    · exact isPlain_nil.cons_mark (by decide)
    · exact isPlain_nil
  unfold emitFraction.customExponent
  refine IsPlain.cons_mark (hsign.append hdigits) ?_
  split <;> decide

/-! ## Patterns -/

/-- A token emits digits that were laid out, an exponent, a separator or its own text. -/
theorem isPlain_emitFraction {d : Digits} (hd : IsPlain culture own d.fraction) {ts : List Token}
    (hts : ∀ t ∈ ts, ∀ c ∈ t.ownText, c ∈ own) (seen : Nat) :
    IsPlain culture own (emitFraction d seen ts) := by
  induction ts generalizing seen with
  | nil => exact isPlain_nil
  | cons t ts ih =>
      have hrest := fun seen => ih (fun t ht => hts t (List.mem_cons_of_mem _ ht)) seen
      have hown : IsPlain culture own t.ownText := isPlain_of_subset (hts t List.mem_cons_self)
      have hdigit : IsPlain culture own ((d.fraction.drop seen).take 1) :=
        hd.of_sublist ((List.take_sublist _ _).trans (List.drop_sublist _ _))
      cases t with
      | zero => exact hdigit.append (hrest _)
      | hash => exact hdigit.append (hrest _)
      | exponent upper alwaysSigned width =>
          exact IsPlain.append (isPlain_customExponent upper alwaysSigned width _) (hrest _)
      | percent => exact hown.append (hrest _)
      | perMille => exact hown.append (hrest _)
      | literal s => exact hown.append (hrest _)
      | _ => exact hrest _

theorem isPlain_placeText {d : Digits} (hd : IsPlain culture own d.whole) (layout : Layout)
    (k : Nat) : IsPlain culture own (placeText culture layout d k) := by
  unfold placeText digitsAt
  split_ifs
  · exact hd.group
  · exact isPlain_nil
  · exact hd.of_sublist (List.take_sublist _ _)
  · exact hd.of_sublist ((List.take_sublist _ _).trans (List.drop_sublist _ _))
  · exact isPlain_nil

theorem isPlain_pointText {d : Digits} (hd : IsPlain culture own d.whole) (layout : Layout) :
    IsPlain culture own (pointText culture layout d) := by
  have hseparator : IsPlain culture own culture.decimalSeparator :=
    fun c hc => .inr (.inr (.inl hc))
  unfold pointText
  apply IsPlain.append
  · split_ifs
    · exact hd
    · exact isPlain_nil
  · split_ifs
    · exact isPlain_nil
    · exact hseparator

theorem isPlain_emitInteger {d : Digits} (hwhole : IsPlain culture own d.whole)
    (hfraction : IsPlain culture own d.fraction) (layout : Layout) {ts : List Token}
    (hts : ∀ t ∈ ts, ∀ c ∈ t.ownText, c ∈ own) (seen : Nat) :
    IsPlain culture own (emitInteger culture layout d seen ts) := by
  induction ts generalizing seen with
  | nil => exact isPlain_nil
  | cons t ts ih =>
      have hts' : ∀ t ∈ ts, ∀ c ∈ t.ownText, c ∈ own :=
        fun t ht => hts t (List.mem_cons_of_mem _ ht)
      have hrest := fun seen => ih hts' seen
      have hown : IsPlain culture own t.ownText := isPlain_of_subset (hts t List.mem_cons_self)
      cases t with
      | zero => exact (isPlain_placeText hwhole _ _).append (hrest _)
      | hash => exact (isPlain_placeText hwhole _ _).append (hrest _)
      | point => exact (isPlain_pointText hwhole _).append (isPlain_emitFraction hfraction hts' _)
      | exponent upper alwaysSigned width =>
          exact IsPlain.append (isPlain_customExponent upper alwaysSigned width _) (hrest _)
      | percent => exact hown.append (hrest _)
      | perMille => exact hown.append (hrest _)
      | literal s => exact hown.append (hrest _)
      | _ => exact hrest _

theorem mem_trimFraction {minFraction : Nat} {c : Char} (h : c ∈ trimFraction minFraction s) :
    c ∈ s := by
  rcases List.mem_append.1 h with h | h
  · exact List.mem_of_mem_take h
  · exact List.mem_of_mem_drop ((Text.dropEndWhile_isPrefix _).subset h)

theorem isDigit_of_mem_padWhole {minInteger : Nat} (hs : ∀ c ∈ s, c.isDigit = true) {c : Char}
    (h : c ∈ padWhole minInteger s) : c.isDigit = true := by
  rw [padWhole, List.leftpad, List.mem_append, List.mem_replicate] at h
  rcases h with ⟨-, rfl⟩ | h
  · rfl
  · split at h
    · cases h
    · exact hs c h

theorem isPlain_formatSection? {ts : List Token} {n m : Number} {e : Int}
    (hscaled : scaled? ts n = some (m, e)) (hm : m.IsFinite)
    (hts : ∀ t ∈ ts, ∀ c ∈ t.ownText, c ∈ own) {withMinus : Bool}
    (h : formatSection? culture ts n withMinus = some s) : IsPlain culture own s := by
  have hdigits : (m.fixed (Layout.ofTokens ts).maxFraction).HasDigits := hasDigits_fixed_iff.2 hm
  rw [formatSection?, hscaled, Option.map_some, Option.some.injEq] at h
  rw [← h]
  refine IsPlain.withSign (isPlain_emitInteger ?_ ?_ _ hts 0) _
  · refine isPlain_of_digits fun c hc => isDigit_of_mem_padWhole (fun c hc => ?_) hc
    exact hdigits c (List.mem_append_left _ hc)
  · exact isPlain_of_digits fun c hc => hdigits c (List.mem_append_right _ (mem_trimFraction hc))

/-! ## Standard formats -/

theorem isPlain_joined {f : Fixed} (hf : f.HasDigits) :
    IsPlain culture own (joinFraction culture f.whole f.fraction) :=
  IsPlain.joinFraction (isPlain_of_digits fun c hc => hf c (List.mem_append_left _ hc))
    (isPlain_of_digits fun c hc => hf c (List.mem_append_right _ hc))

theorem isPlain_grouped {f : Fixed} (hf : f.HasDigits) : IsPlain culture own (grouped culture f) :=
  IsPlain.joinFraction
    (IsPlain.group (isPlain_of_digits fun c hc => hf c (List.mem_append_left _ hc)))
    (isPlain_of_digits fun c hc => hf c (List.mem_append_right _ hc))

theorem mem_replaceFirst {c d : Char} {replacement : Text}
    (h : d ∈ Text.replaceFirst c replacement s) : d ∈ replacement ∨ d ∈ s.erase c := by
  induction s with
  | nil => cases h
  | cons a s ih =>
      rw [Text.replaceFirst] at h
      split at h
      · next heq =>
          subst heq
          rw [List.erase_cons_head]
          exact List.mem_append.1 h
      · next hne =>
          rw [List.erase_cons_tail (by simpa using hne)]
          rcases List.mem_cons.1 h with rfl | h
          · exact .inr List.mem_cons_self
          · exact (ih h).imp_right (List.mem_cons_of_mem _)

theorem isPlain_inPattern {f : Fixed} (hf : f.HasDigits) {pattern : Text}
    (hown : pattern.erase 'n' = own) : IsPlain culture own (inPattern culture pattern f) := by
  apply IsPlain.withSign
  intro c hc
  rcases mem_replaceFirst hc with hc | hc
  · exact isPlain_grouped hf c hc
  · exact .inr (.inr (.inr (.inr (hown ▸ hc))))

theorem isDigit_of_mem_significant {m : Magnitude} {precision : Option Nat} {c : Char}
    (hc : c ∈ (significant m precision).1) : c.isDigit = true := by
  simp only [significant, Scientific.text] at hc
  split at hc
  · obtain rfl := List.mem_singleton.1 hc
    rfl
  · exact isDigit_of_mem_digits ((Text.dropEndWhile_isPrefix _).subset hc)

theorem isPlain_generalFinite (x : Finite) (precision : Option Nat) (upper : Bool) :
    IsPlain culture own (generalFinite culture x precision upper) := by
  have hzeros : ∀ count, IsPlain culture own (List.replicate count '0') := fun count =>
    isPlain_of_digits fun c hc => List.eq_of_mem_replicate hc ▸ rfl
  have hzero : IsPlain culture own "0" := hzeros 1
  have hdigits : IsPlain culture own (significant x.magnitude precision).1 :=
    isPlain_of_digits fun _ => isDigit_of_mem_significant
  have htake := fun size => hdigits.of_sublist (List.take_sublist size _)
  have hdrop := fun size => hdigits.of_sublist (List.drop_sublist size _)
  unfold generalFinite
  split
  · exact hzero
  · apply IsPlain.withSign
    dsimp only
    split_ifs
    · exact hzero.joinFraction ((hzeros _).append hdigits)
    · exact (htake _).joinFraction (hdrop _)
    · exact hdigits.append (hzeros _)
    · exact ((htake _).joinFraction (hdrop _)).append (isPlain_exponentText _ _ _)

theorem isPlain_general {n : Number} (hn : n.IsBounded) (precision : Option Nat) (upper : Bool) :
    IsPlain culture own (general culture n precision upper) := by
  obtain ⟨x, hx⟩ := hn
  unfold general
  split
  · next i =>
      unfold integerText
      split
      · exact (isPlain_digits _).cons_mark (by decide)
      · exact isPlain_digits _
  · rw [hx]
    exact isPlain_generalFinite x precision upper

theorem isPlain_scientific {n : Number} (hn : n.IsBounded) (precision : Nat) (upper : Bool) :
    IsPlain culture own (scientific culture n precision upper) := by
  obtain ⟨x, hx⟩ := hn
  have hdigits : IsPlain culture own
      (paddedDigits (precision + 1) (x.magnitude.scientific precision).digits) :=
    isPlain_paddedDigits _ _
  rw [scientific, hx]
  apply IsPlain.withSign
  apply IsPlain.append
  · exact (hdigits.of_sublist (List.take_sublist _ _)).joinFraction
      (hdigits.of_sublist (List.drop_sublist _ _))
  · exact isPlain_exponentText _ _ _

theorem mem_of_mem_toDigits {n : Nat} {c : Char} (hc : c ∈ Nat.toDigits 16 n) :
    c ∈ ("0123456789abcdef" : Text) := by
  have hdigit : ∀ d < 16, Nat.digitChar d ∈ ("0123456789abcdef" : Text) := by decide
  induction n using Nat.strongRecOn with
  | ind n ih =>
      rcases Nat.lt_or_ge n 16 with hlt | hge
      · rw [Nat.toDigits_of_lt_base hlt, List.mem_singleton] at hc
        rw [hc]
        exact hdigit n hlt
      · rw [Nat.toDigits_of_base_le (by decide) hge, List.mem_append, List.mem_singleton] at hc
        rcases hc with hc | rfl
        · exact ih _ (by omega) hc
        · exact hdigit _ (Nat.mod_lt _ (by decide))

theorem isPlain_hexadecimal (i : Int) (width : Nat) (upper : Bool) :
    IsPlain culture "abcdefABCDEF" (hexadecimal i width upper) := by
  have hchars : ("0123456789abcdef" : Text).all (fun c =>
      [c, c.toUpper].all fun d => d.isDigit || ("abcdefABCDEF" : Text).contains d) = true := by
    decide
  have hplain : ∀ c ∈ ("0123456789abcdef" : Text),
      IsPlain culture "abcdefABCDEF" [c, c.toUpper] := by
    intro c hc d hd
    have hd' := List.all_eq_true.1 (List.all_eq_true.1 hchars c hc) d hd
    rw [Bool.or_eq_true, List.contains_iff_mem] at hd'
    exact hd'.imp_right fun h => .inr (.inr (.inr h))
  have hdigits : ∀ bits, ∀ c ∈ (Nat.toDigits 16 bits).leftpad width '0',
      c ∈ ("0123456789abcdef" : Text) := by
    intro bits c hc
    rw [List.leftpad, List.mem_append, List.mem_replicate] at hc
    rcases hc with ⟨-, rfl⟩ | hc
    · decide
    · exact mem_of_mem_toDigits hc
  intro c hc
  unfold hexadecimal at hc
  dsimp only at hc
  split at hc
  · obtain ⟨d, hd, rfl⟩ := List.mem_map.1 hc
    exact hplain d (hdigits _ d hd) _ (by simp)
  · exact hplain c (hdigits _ c hc) _ (by simp)

theorem isPlain_standard {n : Number} (hn : n.IsBounded) {letter : Char} {precision : Option Nat}
    (hpercent : letter.toUpper = 'P' → (n.scale 100).IsFinite)
    (h : standard culture n letter precision = .ok s) :
    IsPlain culture (standardText culture letter) s := by
  have hfixed : ∀ decimals, (n.fixed decimals).HasDigits :=
    fun _ => hasDigits_fixed_iff.2 hn.isFinite
  unfold standard at h
  dsimp only at h
  split at h
  · next heq =>
      obtain rfl := Except.ok.inj h
      exact isPlain_inPattern (hfixed _) (by simp [standardText, heq])
  · obtain rfl := Except.ok.inj h
    exact (isPlain_paddedDigits _ _).withSign _
  · cases h
  · obtain rfl := Except.ok.inj h
    exact isPlain_scientific hn _ _
  · obtain rfl := Except.ok.inj h
    exact (isPlain_joined (hfixed _)).withSign _
  · obtain rfl := Except.ok.inj h
    exact isPlain_general hn _ _
  · obtain rfl := Except.ok.inj h
    exact isPlain_general hn _ _
  · obtain rfl := Except.ok.inj h
    exact (isPlain_grouped (hfixed _)).withSign _
  · next heq =>
      obtain rfl := Except.ok.inj h
      exact isPlain_inPattern (hasDigits_fixed_iff.2 (hpercent heq)) (by simp [standardText, heq])
  · next heq =>
      obtain rfl := Except.ok.inj h
      have hown : standardText culture letter = "abcdefABCDEF" := by simp [standardText, heq]
      rw [hown]
      exact isPlain_hexadecimal _ _ _
  · cases h
  · cases h

end Plain

/-! ## All formats -/

/-- The number whose digits a format lays out, if it lays out any. -/
def laidOut? (format : Text) (n : Number) : Option Number :=
  match standard? format with
  | some (letter, _) =>
    if letter.toUpper = 'P' then some (n.scale 100)
    else if letter.toUpper ∈ ("CFN" : Text) then some n
    else none
  | none => (scaled? (choose format n).tokens (choose format n).number).map Prod.fst

/-- Whether a format takes a number out of the finite numbers: the hundred of `P` does, or the
section of a pattern. -/
def OverflowsIn (format : Text) (n : Number) : Prop :=
  match standard? format with
  | some (letter, _) => letter.toUpper = 'P' ∧ ¬(n.scale 100).IsFinite
  | none => Overflows (choose format n).tokens (choose format n).number

theorem exists_scaled?_of_custom? {culture : Culture} {pattern s : Text} {n : Number}
    (h : custom? culture pattern n = some s) :
    ∃ m e, scaled? (choose pattern n).tokens (choose pattern n).number = some (m, e) := by
  simp only [custom?, formatSection?, Option.map_eq_some_iff] at h
  obtain ⟨⟨m, e⟩, hscaled, -⟩ := h
  exact ⟨m, e, hscaled⟩

theorem isFinite_laidOut?_iff {culture : Culture} {format : Text} {n : Number} (hn : n.IsStored)
    {s : Text} (hs : formatFinite culture format n = some (.ok s)) :
    (∀ m, laidOut? format n = some m → m.IsFinite) ↔ ¬OverflowsIn format n := by
  unfold formatFinite at hs
  unfold laidOut? OverflowsIn
  cases hformat : standard? format with
  | some read =>
      obtain ⟨letter, precision⟩ := read
      dsimp only
      split_ifs with hpercent hletter
      · simp [hpercent]
      · simp [hpercent, hn.isBounded.isFinite]
      · simp [hpercent]
  | none =>
      rw [hformat] at hs
      obtain ⟨text, hcustom, -⟩ := Option.map_eq_some_iff.1 hs
      obtain ⟨m, e, hscaled⟩ := exists_scaled?_of_custom? hcustom
      simp only [hscaled, Option.map_some, Option.some.injEq, forall_eq']
      exact isFinite_scaled?_iff (hn.isBounded_choose format) hscaled

theorem isPlain_formatFinite {culture : Culture} {format : Text} {n : Number} (hn : n.IsStored)
    {s : Text} (hs : formatFinite culture format n = some (.ok s)) (h : ¬OverflowsIn format n) :
    IsPlain culture (ownText culture format n) s := by
  unfold formatFinite at hs
  unfold OverflowsIn at h
  unfold ownText
  cases hformat : standard? format with
  | some read =>
      obtain ⟨letter, precision⟩ := read
      simp only [hformat, Option.some.injEq, formatStandard] at hs
      simp only [hformat, not_and, not_not] at h
      cases hprecision : precision? precision with
      | error fault => simp [hprecision] at hs
      | ok precision =>
          rw [hprecision] at hs
          exact isPlain_standard hn.isBounded h hs
  | none =>
      simp only [hformat] at hs h
      obtain ⟨text, hcustom, htext⟩ := Option.map_eq_some_iff.1 hs
      obtain rfl := Except.ok.inj htext
      obtain ⟨m, e, hscaled⟩ := exists_scaled?_of_custom? hcustom
      have hfinite := (isFinite_scaled?_iff (hn.isBounded_choose format) hscaled).2 h
      refine isPlain_formatSection? hscaled hfinite (fun t ht c hc => ?_) hcustom
      exact List.mem_flatMap.2 ⟨t, ht, hc⟩

/-- What a format lays out of a number consists of digits unless the format takes the number out of
the finite numbers. Then the whole text consists of digits, signs, exponent letters, separators of
the culture and characters of the format itself. A search for up to 300 places leaves the finite
numbers exactly if it starts below exponent -308. -/
theorem format_digits_iff (culture : Culture) (format : Text) {n : Number} (hn : n.IsStored)
    {s : Text} (hs : Number.format culture format n = some (.ok s)) :
    ((∀ m, laidOut? format n = some m → ∀ decimals, (m.fixed decimals).HasDigits) ↔
      ¬OverflowsIn format n) ∧
    (¬OverflowsIn format n → IsPlain culture (ownText culture format n) s) ∧
    (∀ (x : Finite) places, x.magnitude.isZero = false → 0 < places → places ≤ 300 →
      (StartsInfinite (.finite x) places ↔ x.magnitude.logFloor - (places - 1) < -308)) := by
  have hformat : formatFinite culture format n = some (.ok s) := by
    match n with
    | integer i => exact hs
    | float .nan => exact hn.elim
    | float (.infinite _) => exact hn.elim
    | float (.finite x) => exact hs
  refine ⟨?_, isPlain_formatFinite hn hformat, fun x places hzero => startsInfinite_iff hzero⟩
  rw [← isFinite_laidOut?_iff hn hformat]
  constructor
  · intro h m hm
    exact hasDigits_fixed_iff.1 (h m hm 0)
  · intro h m hm decimals
    exact hasDigits_fixed_iff.2 (h m hm)

/-- A per mille token multiplies an integer exactly. -/
theorem format_digits_iff_perMille :
    (integer 1234).IsStored ∧
      Number.format .enUS "#,##0.0‰" (integer 1234) = some (.ok "1,234,000.0‰") ∧
      (∀ m, laidOut? "#,##0.0‰" (integer 1234) = some m →
        ∀ decimals, (m.fixed decimals).HasDigits) ∧
      IsPlain .enUS (ownText .enUS "#,##0.0‰" (integer 1234)) "1,234,000.0‰" := by
  have hstored : (integer 1234).IsStored := (by decide : IsWide 1234)
  have htext : Number.format .enUS "#,##0.0‰" (integer 1234) = some (.ok "1,234,000.0‰") := by
    decide
  have hfinite : ¬OverflowsIn "#,##0.0‰" (integer 1234) := by
    rintro (hscaled | ⟨hexponent, -⟩)
    · exact hscaled trivial
    · revert hexponent
      decide
  obtain ⟨hdigits, hplain, -⟩ := format_digits_iff .enUS "#,##0.0‰" hstored htext
  exact ⟨hstored, htext, hdigits.2 hfinite, hplain hfinite⟩

/-- A percent token takes a number of 309 digits to infinity, whose word is then laid out. -/
theorem format_percent_eq_inf :
    ∃ x : Finite, ofRatio false (10 ^ 308) 1 = .finite x ∧
      Number.format .invariant "0%" (float (.finite x)) = some (.ok "inf%") ∧
      laidOut? "0%" (float (.finite x)) = some (float (.infinite false)) ∧
      ¬((float (.infinite false)).fixed 0).HasDigits := by
  have hbound : ∀ negative, ofRatio false (10 ^ 308) 1 ≠ .infinite negative := by decide +kernel
  have hinfinite : (ofRatio false (10 ^ 308) 1).mul (ofInt 100) = .infinite false := by
    decide +kernel
  match hx : ofRatio false (10 ^ 308) 1 with
  | .nan => exact (ofUnits_ne_nan _ _ _ hx).elim
  | .infinite negative => exact absurd hx (hbound negative)
  | .finite x =>
      have hscale : (float (.finite x)).scale 100 = float (.infinite false) := by
        rw [hx] at hinfinite
        exact congrArg float hinfinite
      have hsection : choose "0%" (float (.finite x)) =
          ⟨[.zero, .percent], float (.finite x), true⟩ := choose_of_notMem (by decide) _
      have hscaled : scaled? [.zero, .percent] (float (.finite x)) =
          some (float (.infinite false), 0) := by
        rw [← hscale]
        rfl
      have hcustom : custom? .invariant "0%" (float (.finite x)) = some "inf%" := by
        rw [custom?, hsection, formatSection?, hscaled]
        rfl
      have hlaidOut : laidOut? "0%" (float (.finite x)) =
          (scaled? (choose "0%" (float (.finite x))).tokens
            (choose "0%" (float (.finite x))).number).map Prod.fst := rfl
      rw [hsection, hscaled] at hlaidOut
      refine ⟨x, rfl, congrArg (Option.map Except.ok) hcustom, hlaidOut, fun h => ?_⟩
      exact absurd (h 'i' List.mem_cons_self) (by decide)

end Phrasebook.Number
