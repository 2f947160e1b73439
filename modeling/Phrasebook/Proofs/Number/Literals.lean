import Phrasebook.Proofs.Number.Places
import Phrasebook.Proofs.Number.Sections

/-!
# Literals in patterns

What a section asks of a number is read off its tokens that are no literals, and a literal writes
itself at its own place. So a literal that is put into a section puts its text into what the section
writes, and changes nothing else there.
-/

namespace Phrasebook.Number

/-! ## Tokens that are no literals -/

section Filter

variable {α : Type} {p q : α → Bool}

theorem filter_takeWhile (h : ∀ a, q a = false → p a = true) (l : List α) :
    (l.takeWhile p).filter q = (l.filter q).takeWhile p := by
  induction l with
  | nil => rfl
  | cons a l ih =>
      cases hp : p a with
      | true => cases hq : q a <;> simp [hp, hq, ih]
      | false =>
          have hq : q a = true := by
            by_contra hq
            simp [h a (by simpa using hq)] at hp
          simp [hp, hq]

theorem filter_dropWhile (h : ∀ a, q a = false → p a = true) (l : List α) :
    (l.dropWhile p).filter q = (l.filter q).dropWhile p := by
  have hsplit : (l.filter q).takeWhile p ++ (l.dropWhile p).filter q =
      (l.filter q).takeWhile p ++ (l.filter q).dropWhile p := by
    rw [List.takeWhile_append_dropWhile, ← filter_takeWhile h, ← List.filter_append,
      List.takeWhile_append_dropWhile]
  exact List.append_cancel_left hsplit

end Filter

namespace Token

def isLiteral : Token → Bool
  | literal _ => true
  | _ => false

/-- The tokens that are no literals. -/
def specifiers (ts : List Token) : List Token := ts.filter (!·.isLiteral)

theorem specifiers_insertIdx (ts : List Token) (k : Nat) (s : Text) :
    specifiers (ts.insertIdx k (literal s)) = specifiers ts := by
  induction ts generalizing k with
  | nil => cases k <;> rfl
  | cons t ts ih =>
      cases k with
      | zero => rfl
      | succ k =>
          have hrest := ih k
          unfold specifiers at hrest ⊢
          rw [List.insertIdx_succ_cons, List.filter_cons, List.filter_cons, hrest]

theorem filter_isDigit_specifiers (ts : List Token) :
    (specifiers ts).filter isDigit = ts.filter isDigit := by
  rw [specifiers, List.filter_filter]
  refine List.filter_congr fun t _ => ?_
  cases t <;> rfl

end Token

open Token (specifiers)

/-- A literal is neither the point nor a place, so none of the cuts of the layout ends at one. -/
theorem layout_specifiers (ts : List Token) :
    Layout.ofTokens (specifiers ts) = Layout.ofTokens ts := by
  have hpoint : ∀ t : Token, (!t.isLiteral) = false → (t != .point) = true := by
    intro t ht
    cases t <;> first | rfl | cases ht
  have hdigit : ∀ t : Token, (!t.isLiteral) = false → (!t.isDigit) = true := by
    intro t ht
    cases t <;> first | rfl | cases ht
  have hinteger : Token.integerPart (specifiers ts) = specifiers (Token.integerPart ts) :=
    (filter_takeWhile hpoint ts).symm
  have hfraction : Token.fractionPart (specifiers ts) = specifiers (Token.fractionPart ts) :=
    (filter_dropWhile hpoint ts).symm
  have hdrop : ∀ us, (specifiers us).dropWhile (!·.isDigit) =
      specifiers (us.dropWhile (!·.isDigit)) := fun us => (filter_dropWhile hdigit us).symm
  have htake : ∀ us, (specifiers us).takeWhile (!·.isDigit) =
      specifiers (us.takeWhile (!·.isDigit)) := fun us => (filter_takeWhile hdigit us).symm
  have hreverse : ∀ us, (specifiers us).reverse = specifiers us.reverse :=
    fun us => (List.filter_reverse ..).symm
  have hcontains : ∀ us, (specifiers us).contains .comma = us.contains .comma := by
    intro us
    simp [specifiers, Token.isLiteral]
  have hcount : ∀ us, (specifiers us).count .comma = us.count .comma :=
    fun us => List.count_filter rfl
  simp only [Layout.ofTokens, hinteger, hfraction, Token.filter_isDigit_specifiers, hdrop, hreverse,
    htake, hcontains, hcount]

theorem scaleBy_specifiers (n : Number) (ts : List Token) :
    n.scaleBy (specifiers ts) = n.scaleBy ts := by
  induction ts generalizing n with
  | nil => rfl
  | cons t ts ih => cases t <;> exact ih _

theorem scaled?_specifiers (ts : List Token) (n : Number) :
    scaled? (specifiers ts) n = scaled? ts n := by
  have hexponent : (specifiers ts).any Token.isExponent = ts.any Token.isExponent := by
    rw [specifiers, List.any_filter]
    congr 1
    funext t
    cases t <;> rfl
  rw [scaled?, scaled?, layout_specifiers, scaleBy_specifiers, hexponent]

/-! ## The texts around a literal -/

theorem fractionTexts_insertIdx (d : Digits) (seen k : Nat) (ts : List Token) (s : Text) :
    fractionTexts d seen (ts.insertIdx k (.literal s)) =
      (fractionTexts d seen ts).insertIdx k s := by
  induction ts generalizing seen k with
  | nil => cases k <;> rfl
  | cons t ts ih =>
      cases k with
      | zero => rfl
      | succ k =>
          rw [List.insertIdx_succ_cons, fractionTexts, fractionTexts]
          split <;> rw [ih, List.insertIdx_succ_cons]

theorem tokenTexts_insertIdx (culture : Culture) (layout : Layout) (d : Digits) (seen k : Nat)
    (ts : List Token) (s : Text) :
    tokenTexts culture layout d seen (ts.insertIdx k (.literal s)) =
      (tokenTexts culture layout d seen ts).insertIdx k s := by
  induction ts generalizing seen k with
  | nil => cases k <;> rfl
  | cons t ts ih =>
      cases k with
      | zero => rfl
      | succ k =>
          rw [List.insertIdx_succ_cons, tokenTexts, tokenTexts]
          split_ifs
          · rw [ih, List.insertIdx_succ_cons]
          · rw [fractionTexts_insertIdx, List.insertIdx_succ_cons]
          · rw [ih, List.insertIdx_succ_cons]

theorem flatten_insertIdx {texts : List Text} {k : Nat} (hk : k ≤ texts.length) (s : Text) :
    (texts.insertIdx k s).flatten = (texts.take k).flatten ++ s ++ (texts.drop k).flatten := by
  induction texts generalizing k with
  | nil =>
      obtain rfl : k = 0 := Nat.le_zero.1 hk
      simp
  | cons text texts ih =>
      cases k with
      | zero => simp
      | succ k => simp [ih (Nat.le_of_succ_le_succ hk)]

theorem emitInteger_insertIdx_literal (culture : Culture) (layout : Layout)
    (d : Digits) (seen : Nat)
    {k : Nat} {ts : List Token} (hk : k ≤ ts.length) (s : Text) :
    let texts := tokenTexts culture layout d seen ts
    emitInteger culture layout d seen (ts.insertIdx k (.literal s)) =
      (texts.take k).flatten ++ s ++ (texts.drop k).flatten := by
  intro texts
  have hk' : k ≤ texts.length := by rwa [length_tokenTexts]
  rw [← flatten_tokenTexts, tokenTexts_insertIdx, flatten_insertIdx hk']

theorem withSign_eq_append (negative : Bool) (s : Text) :
    withSign negative s = withSign negative [] ++ s := by
  cases negative <;> rfl

/-- A text between quotes is read as one literal. -/
theorem Token.ofText_quoted {q : Char} (hq : q = '\'' ∨ q = '"') {row : Text} (hrow : q ∉ row)
    (s : Text) : ofText (q :: (row ++ q :: s)) = literal row :: ofText s := by
  have hdrop : (row ++ q :: s).drop (row.length + 1) = s := by simp
  rw [ofText, Text.lex_cons, step_quoted hq hrow, hdrop, ofText]

/-- A section writes a row of texts, one for each of its tokens, behind a sign. A literal that is
put somewhere into the section puts its text there into the row, and if the section writes nothing,
it does not either with the literal. A text between quotes that do not stand in it is such a literal
and nothing more, whatever it means in a pattern. -/
theorem formatSection?_insertIdx_literal (culture : Culture) (ts : List Token) (n : Number)
    (withMinus : Bool) :
    ((formatSection? culture ts n withMinus = none ∧
        ∀ k s, formatSection? culture (ts.insertIdx k (.literal s)) n withMinus = none) ∨
      ∃ (sign : Text) (texts : List Text), texts.length = ts.length ∧
        formatSection? culture ts n withMinus = some (sign ++ texts.flatten) ∧
        ∀ k ≤ ts.length, ∀ s,
          formatSection? culture (ts.insertIdx k (.literal s)) n withMinus =
            some (sign ++ (texts.take k).flatten ++ s ++ (texts.drop k).flatten)) ∧
    ∀ (q : Char) (s : Text), (q = '\'' ∨ q = '"') → q ∉ s →
      Token.ofText (q :: (s ++ [q])) = [.literal s] := by
  have hscaled : ∀ k s, scaled? (ts.insertIdx k (.literal s)) n = scaled? ts n := by
    intro k s
    rw [← scaled?_specifiers, Token.specifiers_insertIdx, scaled?_specifiers]
  have hlayout : ∀ k s, Layout.ofTokens (ts.insertIdx k (.literal s)) = Layout.ofTokens ts := by
    intro k s
    rw [← layout_specifiers, Token.specifiers_insertIdx, layout_specifiers]
  refine ⟨?_, fun q s hq hs => Token.ofText_quoted hq hs []⟩
  unfold formatSection?
  simp only [hscaled, hlayout]
  cases scaled? ts n with
  | none => exact .inl ⟨rfl, fun _ _ => rfl⟩
  | some laidOut =>
      obtain ⟨m, exponent⟩ := laidOut
      let f := m.fixed (Layout.ofTokens ts).maxFraction
      let d : Digits := ⟨padWhole (Layout.ofTokens ts).minInteger f.whole,
        trimFraction (Layout.ofTokens ts).minFraction f.fraction, exponent⟩
      refine .inr ⟨withSign (withMinus && f.negative) [],
        tokenTexts culture (Layout.ofTokens ts) d 0 ts, length_tokenTexts 0 ts, ?_,
        fun k hk s => ?_⟩
      · rw [flatten_tokenTexts, ← withSign_eq_append]
        rfl
      · have htext := emitInteger_insertIdx_literal culture (Layout.ofTokens ts) d 0 hk s
        rw [List.append_assoc _ _ s, List.append_assoc, ← htext, ← withSign_eq_append]
        rfl

/-- Behind a grouping comma stands a literal with places, a comma and a percent sign of its own. -/
theorem formatSection?_insertIdx_literal_grouped :
    let ts := Token.ofText "#,##0.00"
    2 ≤ ts.length ∧ '"' ∉ ("0,0.#%" : Text) ∧
      Token.ofText "\"0,0.#%\"" = [.literal "0,0.#%"] ∧
      ∃ front back : Text, front ++ back = "1,234,567.00" ∧
        formatSection? .invariant (ts.insertIdx 2 (.literal "0,0.#%")) (integer 1234567) true =
          some (front ++ "0,0.#%" ++ back) := by
  intro ts
  have hplace : 2 ≤ ts.length := by decide
  have hquote : '"' ∉ ("0,0.#%" : Text) := by decide
  have hplain : formatSection? .invariant ts (integer 1234567) true = some "1,234,567.00" := by
    decide
  obtain ⟨hsection, hquoted⟩ :=
    formatSection?_insertIdx_literal .invariant ts (integer 1234567) true
  refine ⟨hplace, hquote, hquoted '"' "0,0.#%" (.inr rfl) hquote, ?_⟩
  rcases hsection with ⟨hnone, -⟩ | ⟨sign, texts, -, htext, hinsert⟩
  · rw [hplain] at hnone
    cases hnone
  · refine ⟨sign ++ (texts.take 2).flatten, (texts.drop 2).flatten, ?_, hinsert 2 hplace _⟩
    rw [hplain] at htext
    rw [List.append_assoc, ← List.flatten_append, List.take_append_drop]
    exact (Option.some.inj htext).symm

end Phrasebook.Number
