import Mathlib.Data.List.TakeWhile
import Phrasebook.Proofs.Number.Digits

/-!
# Sections of custom patterns

How the tokens of a pattern are read, what a section with plain decimals asks of the digits, and
how the fraction digits come out of its places.
-/

namespace Phrasebook.Number

namespace Token

theorem ofText_cons {c : Char} {s : Text} {t : Token} (h : step c s = (t, 0)) :
    ofText (c :: s) = t :: ofText s := by
  simp [ofText, Text.lex, h]

@[simp] theorem ofText_nil : ofText [] = [] := rfl

@[simp] theorem ofText_zero (s : Text) : ofText ('0' :: s) = zero :: ofText s := ofText_cons rfl

@[simp] theorem ofText_hash (s : Text) : ofText ('#' :: s) = hash :: ofText s := ofText_cons rfl

@[simp] theorem ofText_point (s : Text) : ofText ('.' :: s) = point :: ofText s := ofText_cons rfl

@[simp] theorem ofText_comma (s : Text) : ofText (',' :: s) = comma :: ofText s := ofText_cons rfl

@[simp] theorem ofText_percent (s : Text) : ofText ('%' :: s) = percent :: ofText s :=
  ofText_cons rfl

@[simp] theorem ofText_replicate_zero (count : Nat) (s : Text) :
    ofText (List.replicate count '0' ++ s) = List.replicate count zero ++ ofText s := by
  induction count with
  | zero => rfl
  | succ count ih => simp [List.replicate_succ, ih]

theorem sections_of_notMem {ts : List Token} (h : semicolon ∉ ts) : sections ts = [ts] := by
  induction ts with
  | nil => rfl
  | cons t ts ih =>
      simp only [List.mem_cons, not_or] at h
      simp [sections, Ne.symm h.1, ih h.2]

theorem integerPart_append {lead rest : List Token} (h : point ∉ lead) :
    integerPart (lead ++ point :: rest) = lead := by
  have hlead : ∀ t ∈ lead, (t != point) = true := by
    intro t ht
    simpa using fun heq : t = point => h (heq ▸ ht)
  simp [integerPart, List.takeWhile_append_of_pos hlead]

theorem fractionPart_append {lead rest : List Token} (h : point ∉ lead) :
    fractionPart (lead ++ point :: rest) = point :: rest := by
  have hlead : ∀ t ∈ lead, (t != point) = true := by
    intro t ht
    simpa using fun heq : t = point => h (heq ▸ ht)
  simp [fractionPart, List.dropWhile_append_of_pos hlead]

theorem integerPart_of_notMem {ts : List Token} (h : point ∉ ts) : integerPart ts = ts := by
  rw [integerPart, List.takeWhile_eq_self_iff]
  intro t ht
  simpa using fun heq : t = point => h (heq ▸ ht)

theorem fractionPart_of_notMem {ts : List Token} (h : point ∉ ts) : fractionPart ts = [] := by
  rw [fractionPart, List.dropWhile_eq_nil_iff]
  intro t ht
  simpa using fun heq : t = point => h (heq ▸ ht)

end Token

open Token

theorem choose_of_notMem {pattern : Text} (h : semicolon ∉ ofText pattern) (n : Number) :
    choose pattern n = ⟨ofText pattern, n, true⟩ := by
  simp [choose, sections_of_notMem h]

/-! ## Scaling -/

theorem scaleBy_append (ts us : List Token) (n : Number) :
    n.scaleBy (ts ++ us) = (n.scaleBy ts).scaleBy us := List.foldl_append

theorem scaleBy_of_notMem {ts : List Token} (hpercent : percent ∉ ts) (hperMille : perMille ∉ ts)
    (n : Number) : n.scaleBy ts = n := by
  induction ts with
  | nil => rfl
  | cons t ts ih =>
      simp only [List.mem_cons, not_or] at hpercent hperMille
      have hrest := ih hpercent.2 hperMille.2
      cases t <;> first | exact hrest | simp at hpercent hperMille

theorem formatSection?_of_not_exponent {ts : List Token} (hexponent : ts.any isExponent = false)
    (hdivisions : (Layout.ofTokens ts).divisions = 0) (culture : Culture) (n : Number)
    (withMinus : Bool) :
    formatSection? culture ts n withMinus =
      let layout := Layout.ofTokens ts
      let f := (n.scaleBy ts).fixed layout.maxFraction
      some (withSign (withMinus && f.negative) (emitInteger culture layout
        ⟨padWhole layout.minInteger f.whole, trimFraction layout.minFraction f.fraction, 0⟩
        0 ts)) := by
  simp [formatSection?, scaled?, hexponent, hdivisions, Nat.repeat]

/-! ## Plain decimals -/

/-- Decimals behind a point ask for that many fraction digits and leave the integer places alone. -/
theorem layout_decimals {lead tail : List Token} (hlead : point ∉ lead)
    (htail : ∀ t ∈ tail, t.isDigit = false) (decimals : Nat) :
    Layout.ofTokens (lead ++ point :: (List.replicate decimals zero ++ tail)) =
      { Layout.ofTokens lead with minFraction := decimals, maxFraction := decimals } := by
  have hfilter : (point :: (List.replicate decimals zero ++ tail)).filter isDigit =
      List.replicate decimals zero := by
    have htail' : tail.filter isDigit = [] := by simpa using htail
    rw [List.filter_cons_of_neg (by decide), List.filter_append, htail', List.append_nil,
      List.filter_replicate_of_pos rfl]
  have hdrop : (List.replicate decimals zero).dropWhile (· != zero) =
      List.replicate decimals zero := by
    cases decimals <;> rfl
  simp only [Layout.ofTokens, integerPart_append hlead, fractionPart_append hlead,
    integerPart_of_notMem hlead, hfilter, List.reverse_replicate, hdrop, List.length_replicate]

theorem emitInteger_append_point {lead : List Token} (hlead : point ∉ lead) (culture : Culture)
    (layout : Layout) (d : Digits) (seen : Nat) (rest : List Token) :
    emitInteger culture layout d seen (lead ++ point :: rest) =
      emitInteger culture layout d seen lead ++
        (pointText culture layout d ++ emitFraction d 0 rest) := by
  induction lead generalizing seen with
  | nil => rfl
  | cons t lead ih =>
      simp only [List.mem_cons, not_or] at hlead
      have hrest := fun seen => ih hlead.2 seen
      cases t with
      | point => exact (hlead.1 rfl).elim
      | _ => simp [emitInteger, hrest]

theorem emitFraction_replicate_zero (d : Digits) (seen decimals : Nat) (tail : List Token) :
    emitFraction d seen (List.replicate decimals zero ++ tail) =
      (d.fraction.drop seen).take decimals ++ emitFraction d (seen + decimals) tail := by
  induction decimals generalizing seen with
  | zero => simp
  | succ decimals ih =>
      have htake : (d.fraction.drop seen).take (decimals + 1) =
          (d.fraction.drop seen).take 1 ++ (d.fraction.drop (seen + 1)).take decimals := by
        rw [Nat.add_comm, List.take_add, List.drop_drop]
      rw [List.replicate_succ, List.cons_append, emitFraction, ih, htake, List.append_assoc,
        Nat.add_assoc, Nat.add_comm 1 decimals]

/-- A point with enough decimals behind it shows all fraction digits. -/
theorem append_pointText_append {culture : Culture} {layout : Layout} {d : Digits} {decimals : Nat}
    (hplaces : layout.places ≠ 0) (hfraction : d.fraction.length ≤ decimals) (whole : Text)
    (tail : List Token) :
    whole ++ (pointText culture layout d ++
        emitFraction d 0 (List.replicate decimals zero ++ tail)) =
      joinFraction culture whole d.fraction ++ emitFraction d decimals tail := by
  rw [emitFraction_replicate_zero, List.drop_zero, List.take_of_length_le hfraction, Nat.zero_add]
  by_cases hempty : d.fraction = []
  · simp [pointText, joinFraction, hplaces, hempty]
  · simp [pointText, joinFraction, hplaces, hempty]

/-! ## Plain integer places -/

theorem layout_replicate_zero (places : Nat) :
    Layout.ofTokens (List.replicate places zero) = ⟨places, places, 0, 0, false, 0⟩ := by
  have hpoint : point ∉ List.replicate places zero := by simp
  have hfilter : (List.replicate places zero).filter isDigit = List.replicate places zero :=
    List.filter_replicate_of_pos rfl
  have hdrop : ∀ q : Token → Bool, q zero = false →
      (List.replicate places zero).dropWhile q = List.replicate places zero := by
    intro q hq
    cases places <;> simp [List.replicate_succ, hq]
  simp [Layout.ofTokens, integerPart_of_notMem hpoint, fractionPart_of_notMem hpoint, hfilter,
    hdrop, isDigit]

end Phrasebook.Number
