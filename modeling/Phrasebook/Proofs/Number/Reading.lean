import Phrasebook.Number.Format
import Phrasebook.Proofs.Culture.Separators
import Phrasebook.Proofs.Number.Characters
import Phrasebook.Proofs.Number.Grouping
import Phrasebook.Proofs.Placeholder.Scan

/-!
# Reading laid out digits back

The formats with a fixed count of decimals put a sign in front of a pattern and the digits in the
place of its `n`. Reading takes the text of the pattern off, then the sign, then the fraction digits
from the end with the decimal separator before them, and takes the group separators out of what is
left. The count of decimals has to be known, since both separators may be the same.
-/

namespace Phrasebook

namespace Text

/-- The text before `back`, if the text ends with it. -/
def dropEnd? (back s : Text) : Option Text :=
  (dropFront? back.reverse s.reverse).map List.reverse

@[simp] theorem dropEnd?_append (s back : Text) : dropEnd? back (s ++ back) = some s := by
  simp [dropEnd?]

theorem dropEnd?_eq_some_iff {back s front : Text} :
    dropEnd? back s = some front ↔ s = front ++ back := by
  constructor
  · intro h
    obtain ⟨rest, hrest, rfl⟩ := Option.map_eq_some_iff.1 h
    have hreverse := congrArg List.reverse (dropFront?_eq_some_iff.1 hrest)
    simpa using hreverse
  · rintro rfl
    exact dropEnd?_append front back

theorem replaceFirst_append {c : Char} {before : Text} (hbefore : c ∉ before)
    (replacement after : Text) :
    replaceFirst c replacement (before ++ c :: after) = before ++ replacement ++ after := by
  induction before with
  | nil => simp [replaceFirst]
  | cons d before ih =>
      rw [List.mem_cons, not_or] at hbefore
      rw [List.cons_append, replaceFirst, if_neg (Ne.symm hbefore.1), ih hbefore.2]
      rfl

/-- A front that can be taken off a text with one further character at its beginning leaves a text
that begins with this character, if it can be taken off the rest as well. -/
theorem head?_of_dropFront?_cons {c : Char} {front s rest : Text}
    (h : dropFront? front (c :: (front ++ s)) = some rest) : rest.head? = some c := by
  induction front generalizing c with
  | nil =>
      obtain rfl := Option.some.inj h
      rfl
  | cons d front ih =>
      unfold dropFront? at h
      split at h
      · next heq => exact heq ▸ ih h
      · cases h

end Text

namespace Number

variable {culture : Culture} {decimals : Nat} {f : Fixed}

/-- The number that digits denote. -/
def Fixed.value (f : Fixed) : ℚ :=
  (if f.negative then -1 else 1) * (valueOf (f.whole ++ f.fraction) / 10 ^ f.fraction.length)

/-- What stands in front of the fraction digits and their separator. -/
def beforeFraction? (culture : Culture) (decimals : Nat) (s : Text) : Option Text :=
  let front := s.take (s.length - decimals)
  if decimals = 0 then some front else Text.dropEnd? culture.decimalSeparator front

/-- The integer digits, which may be grouped, and exactly `decimals` fraction digits. -/
def magnitude? (culture : Culture) (decimals : Nat) (s : Text) : Option (Text × Text) := do
  let fraction := s.drop (s.length - decimals)
  let amount ← beforeFraction? culture decimals s
  let whole := Text.replaceAll culture.groupSeparator [] amount
  if amount.head?.any Char.isDigit ∧ (whole ++ fraction).all Char.isDigit then
    some (whole, fraction)
  else none

/-- The digits in the place between two texts. -/
def magnitudeBetween? (culture : Culture) (before after : Text) (decimals : Nat) (s : Text) :
    Option (Text × Text) := do
  magnitude? culture decimals (← Text.dropEnd? after (← Text.dropFront? before s))

/-- The rounded number in a text that was laid out with a pattern. -/
def Fixed.read? (culture : Culture) (pattern : Text) (decimals : Nat) (s : Text) :
    Option Fixed := do
  let (before, after) ← Text.cut? 'n' pattern
  match magnitudeBetween? culture before after decimals s, s with
  | some (whole, fraction), _ => some ⟨false, whole, fraction⟩
  | none, '-' :: s => do
    let (whole, fraction) ← magnitudeBetween? culture before after decimals s
    some ⟨true, whole, fraction⟩
  | none, _ => none

/-- Whether a text is the integer digits, perhaps with group separators between them. -/
def IsWhole (culture : Culture) (whole s : Text) : Prop :=
  s.head?.any Char.isDigit ∧ Text.replaceAll culture.groupSeparator [] s = whole

/-! ## Reading the digits -/

theorem beforeFraction?_joinFraction (culture : Culture) (s : Text) {fraction : Text}
    (hlength : fraction.length = decimals) :
    beforeFraction? culture decimals (joinFraction culture s fraction) = some s ∧
      (joinFraction culture s fraction).drop
        ((joinFraction culture s fraction).length - decimals) = fraction := by
  subst hlength
  unfold beforeFraction? joinFraction
  cases fraction with
  | nil => simp
  | cons c fraction =>
      have hsplit : (s ++ culture.decimalSeparator ++ c :: fraction).length -
          (c :: fraction).length = (s ++ culture.decimalSeparator).length := by
        rw [List.length_append, Nat.add_sub_cancel]
      have hne : (c :: fraction).length ≠ 0 := Nat.succ_ne_zero _
      rw [if_neg hne, List.isEmpty_cons, if_neg Bool.false_ne_true, hsplit, List.take_left' rfl,
        List.drop_left' rfl, Text.dropEnd?_append]
      exact ⟨rfl, rfl⟩

theorem magnitude?_joinFraction {s : Text} (hdigits : f.HasDigits)
    (hlength : f.fraction.length = decimals) (hs : IsWhole culture f.whole s) :
    magnitude? culture decimals (joinFraction culture s f.fraction) =
      some (f.whole, f.fraction) := by
  have hall : (f.whole ++ f.fraction).all Char.isDigit := List.all_eq_true.2 hdigits
  obtain ⟨hfront, hfraction⟩ := beforeFraction?_joinFraction culture s hlength
  obtain ⟨hhead, hwhole⟩ := hs
  simp only [magnitude?, hfront, hfraction, Option.bind_eq_bind, Option.bind_some, hwhole, hhead,
    hall, and_self, if_true]

/-- What is read begins with a digit. -/
theorem head?_of_magnitude? {s : Text} {r : Text × Text}
    (h : magnitude? culture decimals s = some r) :
    s.head?.any Char.isDigit := by
  obtain ⟨amount, hamount, hread⟩ := Option.bind_eq_some_iff.1 h
  have hfront : ∃ back, s.take (s.length - decimals) = amount ++ back := by
    unfold beforeFraction? at hamount
    split at hamount
    · exact ⟨[], by simpa using hamount⟩
    · exact ⟨_, Text.dropEnd?_eq_some_iff.1 hamount⟩
  obtain ⟨back, hback⟩ := hfront
  have hs : s = amount ++ (back ++ s.drop (s.length - decimals)) := by
    rw [← List.append_assoc, ← hback, List.take_append_drop]
  dsimp only at hread
  split at hread
  · next hvalid =>
      rw [hs]
      cases amount with
      | nil => simp at hvalid
      | cons c amount => exact hvalid.1
  · cases hread

theorem magnitudeBetween?_append {before after s : Text} :
    magnitudeBetween? culture before after decimals (before ++ s ++ after) =
      magnitude? culture decimals s := by
  simp [magnitudeBetween?, List.append_assoc]

/-- A minus sign in front of a laid out number is not taken for a part of the pattern. -/
theorem magnitudeBetween?_minus (culture : Culture) (decimals : Nat) (before after s : Text) :
    magnitudeBetween? culture before after decimals ('-' :: (before ++ s)) = none := by
  rw [Option.eq_none_iff_forall_not_mem]
  intro r hr
  simp only [magnitudeBetween?, Option.bind_eq_bind, Option.mem_def, Option.bind_eq_some_iff] at hr
  obtain ⟨rest, hfront, amount, hback, hread⟩ := hr
  have hminus := Text.head?_of_dropFront?_cons hfront
  have hdigit := head?_of_magnitude? hread
  obtain rfl := Text.dropEnd?_eq_some_iff.1 hback
  cases amount with
  | nil => cases hdigit
  | cons c amount =>
      obtain rfl : c = '-' := by simpa using hminus
      simp at hdigit

/-- What was laid out with a pattern is read back. -/
theorem read?_withSign {before after s : Text} (hbefore : 'n' ∉ before) (hdigits : f.HasDigits)
    (hlength : f.fraction.length = decimals) (hs : IsWhole culture f.whole s) :
    Fixed.read? culture (before ++ 'n' :: after) decimals
      (withSign f.negative (before ++ joinFraction culture s f.fraction ++ after)) = some f := by
  have hcut : Text.cut? 'n' (before ++ 'n' :: after) = some (before, after) :=
    Text.cut?_eq_some_iff.2 ⟨hbefore, rfl⟩
  have hread := magnitude?_joinFraction hdigits hlength hs
  obtain ⟨negative, whole, fraction⟩ := f
  cases negative with
  | false =>
      simp only [Fixed.read?, hcut, Option.bind_eq_bind, Option.bind_some, withSign,
        Bool.false_eq_true, if_false, magnitudeBetween?_append, hread]
  | true =>
      have hminus := magnitudeBetween?_minus culture decimals before after
        (joinFraction culture s fraction ++ after)
      rw [← List.append_assoc] at hminus
      simp only [Fixed.read?, hcut, Option.bind_eq_bind, Option.bind_some, withSign, if_true,
        hminus, magnitudeBetween?_append, hread]

/-! ## Laid out digits -/

theorem isWhole_group (hculture : culture.HasPlainSeparators) {whole : Text} (hne : whole ≠ [])
    (hdigits : ∀ c ∈ whole, c.isDigit = true) :
    IsWhole culture whole (group culture.groupSeparator whole) := by
  obtain ⟨-, hseparator, hfree⟩ := hculture
  refine ⟨?_, replaceAll_group hseparator (fun c hc hmem => ?_) hne⟩
  · cases whole with
    | nil => exact (hne rfl).elim
    | cons c s =>
        have hc := hdigits c List.mem_cons_self
        unfold group
        split <;> simpa using hc
  · have hc' := hfree c (List.mem_append_right _ hc)
    rw [hdigits c hmem] at hc'
    cases hc'

theorem isWhole_self (hculture : culture.HasPlainSeparators) {whole : Text} (hne : whole ≠ [])
    (hdigits : ∀ c ∈ whole, c.isDigit = true) : IsWhole culture whole whole := by
  obtain ⟨-, hseparator, hfree⟩ := hculture
  obtain ⟨c, rest, hcons⟩ := List.exists_cons_of_ne_nil hseparator
  constructor
  · cases whole with
    | nil => exact (hne rfl).elim
    | cons d s => simpa using hdigits d List.mem_cons_self
  · have hnot : c ∉ whole := by
      intro hmem
      have hc := hfree c (by simp [hcons])
      rw [hdigits c hmem] at hc
      cases hc
    have hjoin : Text.replaceAll (c :: rest) [] (Text.join (c :: rest) [whole]) = [whole].flatten :=
      Text.replaceAll_join (by simpa using hnot) (List.cons_ne_nil _ _)
    rw [hcons]
    simpa [Text.join] using hjoin

theorem Fixed.HasDigits.whole (hf : f.HasDigits) : ∀ c ∈ f.whole, c.isDigit = true :=
  fun c hc => hf c (List.mem_append_left _ hc)

theorem read?_inPattern (hculture : culture.HasPlainSeparators) {pattern : Text}
    (hpattern : 'n' ∈ pattern) (hdigits : f.HasDigits) (hne : f.whole ≠ [])
    (hlength : f.fraction.length = decimals) :
    Fixed.read? culture pattern decimals (inPattern culture pattern f) = some f := by
  obtain ⟨before, after, rfl, hbefore⟩ := List.eq_append_cons_of_mem hpattern
  rw [inPattern, Text.replaceFirst_append hbefore, grouped]
  exact read?_withSign hbefore hdigits hlength (isWhole_group hculture hne hdigits.whole)

/-- Without a pattern only the sign stands in front of the digits. -/
theorem read?_plain {s : Text} (hdigits : f.HasDigits) (hlength : f.fraction.length = decimals)
    (hs : IsWhole culture f.whole s) :
    Fixed.read? culture "n" decimals
      (withSign f.negative (joinFraction culture s f.fraction)) = some f := by
  have hread : Fixed.read? culture ([] ++ 'n' :: []) decimals
      (withSign f.negative ([] ++ joinFraction culture s f.fraction ++ [])) = some f :=
    read?_withSign List.not_mem_nil hdigits hlength hs
  rwa [List.nil_append, List.append_nil] at hread

/-! ## Standard formats -/

/-- Whether a format is a standard one of this letter, in upper or in lower case, with this
precision. -/
def IsStandard (format : Text) (letter : Char) (precision : Option Nat) : Prop :=
  ∃ c row, standard? format = some (c, row) ∧ c.toUpper = letter ∧
    precision? row = .ok precision

theorem IsStandard.formatFinite_eq {format : Text} {letter : Char} {precision : Option Nat}
    (h : IsStandard format letter precision) (culture : Culture) (n : Number) :
    ∃ c : Char, c.toUpper = letter ∧
      formatFinite culture format n = some (standard culture n c precision) := by
  obtain ⟨c, row, hstandard, hletter, hprecision⟩ := h
  refine ⟨c, hletter, ?_⟩
  simp only [formatFinite, hstandard, formatStandard, hprecision]

end Number

end Phrasebook
