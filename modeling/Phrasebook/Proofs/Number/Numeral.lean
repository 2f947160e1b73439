import Phrasebook.Binary64.Reader
import Phrasebook.Proofs.Number.Reading

/-!
# Numerals

General and scientific notation write a sign, digits with a decimal separator somewhere between them
and perhaps an exponent. Such a text can be read without knowing how many digits it has, if the
decimal separator cannot be taken for one of the other parts.
-/

namespace Phrasebook

/-- Whether there is a decimal separator, without digits, signs and letters. -/
def Culture.HasPlainDecimals (culture : Culture) : Prop :=
  culture.decimalSeparator ≠ [] ∧
    ∀ c ∈ culture.decimalSeparator, c.isDigit = false ∧ c.isAlpha = false ∧ c ≠ '+' ∧ c ≠ '-'

theorem Culture.hasPlainDecimals_de : Culture.de.HasPlainDecimals := by
  refine ⟨List.cons_ne_nil _ _, ?_⟩
  intro c hc
  obtain rfl : c = ',' := List.mem_singleton.1 hc
  decide

namespace Number

open Binary64 (cutSign exponent?)

/-- Digits with a sign and a fraction, and an exponent if one is shown. -/
structure Numeral extends Fixed where
  exponent : Option Int
deriving DecidableEq

/-- The number that a numeral denotes. -/
def Numeral.value (r : Numeral) : ℚ := r.toFixed.value * 10 ^ (r.exponent.getD 0)

/-- The digits at the front of a text, and what follows them. -/
def spanDigits (s : Text) : Text × Text := (s.takeWhile Char.isDigit, s.dropWhile Char.isDigit)

/-- The fraction digits behind a decimal separator, if one stands at the front. -/
def spanFraction (separator s : Text) : Text × Text :=
  match Text.dropFront? separator s with
  | some s => spanDigits s
  | none => ([], s)

/-- The numeral that a text is: perhaps a minus sign, digits, perhaps a decimal separator with
digits behind it, and perhaps an exponent. -/
def Numeral.read? (separator s : Text) : Option Numeral := do
  let (negative, s) := cutSign s
  let (whole, s) := spanDigits s
  let (fraction, s) := spanFraction separator s
  if whole = [] then none
  else if s = [] then some ⟨⟨negative, whole, fraction⟩, none⟩
  else (exponent? s).map fun e => ⟨⟨negative, whole, fraction⟩, some e⟩

/-- The text of an exponent, if one is shown. -/
def exponentPart (width : Nat) (upper : Bool) (exponent : Option Int) : Text :=
  exponent.elim [] fun e => exponentText e width upper

section

variable {culture : Culture} {whole fraction s : Text} {width : Nat} {upper : Bool}

theorem cutSign_withSign (negative : Bool) (hs : s.head?.any Char.isDigit) :
    cutSign (withSign negative s) = (negative, s) := by
  cases negative with
  | true => rfl
  | false =>
      cases s with
      | nil => cases hs
      | cons c s =>
          have hminus : c ≠ '-' := by
            rintro rfl
            cases hs
          have hplus : c ≠ '+' := by
            rintro rfl
            cases hs
          unfold withSign cutSign
          grind

theorem spanDigits_append (hwhole : ∀ c ∈ whole, c.isDigit = true)
    (hs : s.head?.any Char.isDigit = false) : spanDigits (whole ++ s) = (whole, s) := by
  have hstop : s.takeWhile Char.isDigit = [] ∧ s.dropWhile Char.isDigit = s := by
    cases s with
    | nil => exact ⟨rfl, rfl⟩
    | cons c s =>
        have hc : c.isDigit = false := hs
        simp [hc]
  rw [spanDigits, List.takeWhile_append_of_pos hwhole, List.dropWhile_append_of_pos hwhole, hstop.1,
    hstop.2, List.append_nil]

theorem exponent?_exponentText (e : Int) (width : Nat) (upper : Bool) :
    exponent? (exponentText e width upper) = some e := by
  have hne : paddedDigits width e.natAbs ≠ [] := by
    simp [paddedDigits, List.leftpad, digits_ne_nil]
  have hall : (paddedDigits width e.natAbs).all Char.isDigit :=
    List.all_eq_true.2 fun c hc => isDigit_of_mem_paddedDigits hc
  have hletter : ∀ c : Char, (c = if upper then 'E' else 'e') → c = 'e' ∨ c = 'E' := by
    rintro c rfl
    cases upper
    · exact .inl rfl
    · exact .inr rfl
  unfold exponentText exponent?
  by_cases he : e < 0
  · simp only [he, if_true, cutSign, hletter _ rfl, hne, hall, ne_eq, not_false_eq_true, and_self,
      valueOf_paddedDigits]
    congr 1
    omega
  · simp only [he, if_false, cutSign, hletter _ rfl, hne, hall, ne_eq, not_false_eq_true, and_self,
      if_true, valueOf_paddedDigits, Bool.false_eq_true]
    congr 1
    omega

/-- An exponent does not begin with a digit or with what separates decimals. -/
theorem spanFraction_exponentPart (hculture : culture.HasPlainDecimals) (exponent : Option Int) :
    spanFraction culture.decimalSeparator (exponentPart width upper exponent) =
      ([], exponentPart width upper exponent) := by
  obtain ⟨hne, hplain⟩ := hculture
  obtain ⟨c, rest, hcons⟩ := List.exists_cons_of_ne_nil hne
  have hletter := (hplain c (by simp [hcons])).2.1
  rw [spanFraction, hcons]
  cases exponent with
  | none => rfl
  | some e =>
      have hc : c ≠ if upper then 'E' else 'e' := by
        rintro rfl
        cases upper <;> cases hletter
      rw [exponentPart, Option.elim_some, exponentText, Text.dropFront?_cons_of_ne hc]

theorem head?_exponentPart (exponent : Option Int) :
    (exponentPart width upper exponent).head?.any Char.isDigit = false := by
  cases exponent with
  | none => rfl
  | some e => cases upper <;> rfl

theorem spanFraction_append (hculture : culture.HasPlainDecimals)
    (hfraction : ∀ c ∈ fraction, c.isDigit = true) (width : Nat) (upper : Bool)
    (exponent : Option Int) :
    (joinFraction culture [] fraction ++ exponentPart width upper exponent).head?.any
        Char.isDigit = false ∧
      spanFraction culture.decimalSeparator
          (joinFraction culture [] fraction ++ exponentPart width upper exponent) =
        (fraction, exponentPart width upper exponent) := by
  obtain ⟨c, rest, hcons⟩ := List.exists_cons_of_ne_nil hculture.1
  cases fraction with
  | nil => exact ⟨head?_exponentPart exponent, spanFraction_exponentPart hculture exponent⟩
  | cons d fraction =>
      have hc : c.isDigit = false := (hculture.2 c (by simp [hcons])).1
      rw [joinFraction, List.isEmpty_cons, if_neg Bool.false_ne_true, List.nil_append]
      refine ⟨by simp [hcons, hc], ?_⟩
      rw [List.append_assoc, spanFraction, Text.dropFront?_append]
      exact spanDigits_append hfraction (head?_exponentPart exponent)

/-- Digits that were written with a sign, a fraction and an exponent are read back. -/
theorem read?_numeral (hculture : culture.HasPlainDecimals) (negative : Bool) (hne : whole ≠ [])
    (hwhole : ∀ c ∈ whole, c.isDigit = true) (hfraction : ∀ c ∈ fraction, c.isDigit = true)
    (exponent : Option Int) :
    Numeral.read? culture.decimalSeparator (withSign negative
        (joinFraction culture whole fraction ++ exponentPart width upper exponent)) =
      some ⟨⟨negative, whole, fraction⟩, exponent⟩ := by
  obtain ⟨htail, hspan⟩ := spanFraction_append hculture hfraction width upper exponent
  have hsplit : joinFraction culture whole fraction =
      whole ++ joinFraction culture [] fraction := by
    unfold joinFraction
    split <;> simp
  have hhead : (whole ++ (joinFraction culture [] fraction ++
      exponentPart width upper exponent)).head?.any Char.isDigit := by
    cases whole with
    | nil => exact (hne rfl).elim
    | cons c whole => exact hwhole c List.mem_cons_self
  rw [hsplit, List.append_assoc, Numeral.read?, cutSign_withSign negative hhead]
  simp only [spanDigits_append hwhole htail, hspan, hne, if_false]
  cases exponent with
  | none => rfl
  | some e =>
      have hsome : exponentPart width upper (some e) ≠ [] := List.cons_ne_nil _ _
      rw [if_neg hsome]
      exact congrArg (Option.map _) (exponent?_exponentText e width upper)

end

end Number

end Phrasebook
