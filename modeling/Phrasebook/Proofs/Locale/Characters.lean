import Phrasebook.Proofs.Locale.Stability

/-!
# Characters of tags

All characters of a canonical tag have an ASCII code other than zero. Letters, digits and the dashes
between subtags apart, they stand in variants of four characters of which the first is a digit, and
the tags further down a chain have no others.
-/

namespace Phrasebook

namespace LanguageTag

variable {tag : LanguageTag} {c : Char}

theorem isAscii_of_isAlphanum (hc : c.isAlphanum = true) : isAscii c = true := by
  rw [Char.isAlphanum, Bool.or_eq_true, Char.isDigit_iff_toNat] at hc
  rcases hc with halpha | ⟨hlow, hhigh⟩
  · exact isAscii_of_isAlpha halpha
  · simp only [Char.reduceToNat] at hlow hhigh
    simp only [isAscii, Bool.and_eq_true, decide_eq_true_eq]
    omega

theorem all_isAscii_of_isVariant {s : Text} (hs : isVariant s = true) :
    ∀ c ∈ s, isAscii c = true := by
  simp only [isVariant, Bool.or_eq_true, Bool.and_eq_true, List.all_eq_true] at hs
  rcases hs with ⟨-, hall⟩ | ⟨⟨-, hall⟩, -⟩
  · exact fun c hc => isAscii_of_isAlphanum (hall c hc)
  · exact hall

theorem mem_text_iff (hc : c ≠ '-') : c ∈ tag.text ↔ ∃ s ∈ tag.subtags, c ∈ s :=
  Text.mem_join_iff hc tag.subtags

namespace WellFormed

theorem isAscii_of_mem_text (h : tag.WellFormed) (hc : c ∈ tag.text) : isAscii c = true := by
  by_cases hdash : c = '-'
  · rw [hdash]
    rfl
  · obtain ⟨s, hs, hcs⟩ := (mem_text_iff hdash).1 hc
    rcases h.isAlphanum_or_mem_variants hs with hall | hvariant
    · exact isAscii_of_isAlphanum (hall c hcs)
    · exact all_isAscii_of_isVariant (h.variants s hvariant).1 c hcs

/-- What is neither letter, digit nor dash stands in a variant. -/
theorem mem_text_iff_mem_variants (h : tag.WellFormed) (hc : c.isAlphanum = false)
    (hdash : c ≠ '-') : c ∈ tag.text ↔ ∃ v ∈ tag.variants, c ∈ v := by
  rw [mem_text_iff hdash]
  constructor
  · rintro ⟨s, hs, hcs⟩
    refine ⟨s, (h.isAlphanum_or_mem_variants hs).resolve_left fun hall => ?_, hcs⟩
    exact absurd (hall c hcs) (by simp [hc])
  · rintro ⟨v, hv, hcv⟩
    exact ⟨v, by simp [subtags, hv], hcv⟩

end WellFormed

/-- The canonical form of a variant brings no new characters in, letters apart. -/
theorem mem_of_mem_canonicalVariants {vs : List Text} {w : Text} (hc : c.isAlphanum = false)
    (hw : w ∈ canonicalVariants vs) (hcw : c ∈ w) : ∃ v ∈ vs, c ∈ v := by
  obtain ⟨v, hv, rfl⟩ := mem_canonicalVariants.1 hw
  obtain ⟨d, hd, hlower⟩ := List.mem_map.1 hcw
  have hother : ∀ e : Char, e.isAlpha = true → (e == c) = false := by
    intro e he
    rw [beq_eq_false_iff_ne]
    rintro rfl
    rw [isAlphanum_of_isAlpha he] at hc
    cases hc
  have hsame : (d.toLower == c) = (d == c) := toLower_of_not_isAlpha (q := (· == c)) hother d
  have hdc : d = c := by simpa [hlower] using hsame
  exact ⟨v, hv, hdc ▸ hd⟩

end LanguageTag

namespace Locale

open LanguageTag

variable {locale parent : Locale} {c : Char}

/-- The variants; the invariant locale has none. -/
def variants : Locale → List Text
  | .invariant => []
  | .tagged tag => tag.variants

theorem WellFormed.mem_tag_iff (hlocale : locale.WellFormed) (hc : c.isAlphanum = false)
    (hdash : c ≠ '-') : c ∈ locale.tag ↔ ∃ v ∈ locale.variants, c ∈ v := by
  cases locale with
  | invariant => simp [tag, variants]
  | tagged tag => exact hlocale.1.mem_text_iff_mem_variants hc hdash

theorem WellFormed.isAscii_of_mem_tag (hlocale : locale.WellFormed) (hc : c ∈ locale.tag) :
    isAscii c = true := by
  cases locale with
  | invariant => cases hc
  | tagged tag => exact hlocale.1.isAscii_of_mem_text hc

theorem WellFormed.head_isDigit (hlocale : locale.WellFormed) {v : Text} (hv : v ∈ locale.variants)
    (hcv : c ∈ v) (hc : c.isAlphanum = false) :
    ∃ d rest, v = d :: rest ∧ d.isDigit = true ∧ v.length = 4 := by
  cases locale with
  | invariant => cases hv
  | tagged tag => exact head_isDigit_of_isVariant (hlocale.1.variants v hv).1 hcv hc

/-- A tag has only characters of the text that it was read from, letters and dashes apart. -/
theorem mem_of_mem_tag_of_parse {s : Text} (h : parse s = .ok locale) (hc : c.isAlphanum = false)
    (hdash : c ≠ '-') (hmem : c ∈ locale.tag) : c ∈ s := by
  obtain ⟨w, hw, hcw⟩ := ((wellFormed_of_parse h).mem_tag_iff hc hdash).1 hmem
  cases locale with
  | invariant => cases hw
  | tagged tag =>
      obtain ⟨parts, -, hpieces, -, -, rfl, -⟩ := exists_parts_of_parse h
      obtain ⟨v, hv, hcv⟩ := mem_of_mem_canonicalVariants hc hw hcw
      have hpiece : v ∈ Text.splitBy isSeparator (Text.trim s) := by
        rw [← hpieces]
        simp [Parts.pieces, hv]
      exact Text.trim_subset s (Text.mem_of_mem_splitBy _ v hpiece c hcv)

theorem mem_tag_of_mem_parent? (hc : c.isAlphanum = false) (hdash : c ≠ '-')
    (hparent : locale.parent? = some parent) (hmem : c ∈ parent.tag) : c ∈ locale.tag := by
  obtain ⟨tag, rfl, hparse | rfl⟩ := parent?_eq_some hparent
  · have hrow : c ∈ Text.join ['-'] tag.subtags.dropLast :=
      mem_of_mem_tag_of_parse hparse hc hdash hmem
    obtain ⟨s, hs, hcs⟩ := (Text.mem_join_iff hdash _).1 hrow
    exact (mem_text_iff hdash).2 ⟨s, List.mem_of_mem_dropLast hs, hcs⟩
  · cases hmem

theorem mem_tag_of_mem_chain (hlocale : locale.WellFormed) (hc : c.isAlphanum = false)
    (hdash : c ≠ '-') : ∀ level ∈ locale.chain, c ∈ level.tag → c ∈ locale.tag := by
  induction locale, hlocale using parent_induction with
  | invariant =>
      intro level hlevel hmem
      rwa [List.mem_singleton.1 hlevel] at hmem
  | step locale parent hlocale hparent ih =>
      intro level hlevel hmem
      rw [chain_eq_cons hlocale hparent] at hlevel
      rcases List.mem_cons.1 hlevel with rfl | hlevel
      · exact hmem
      · exact mem_tag_of_mem_parent? hc hdash hparent (ih level hlevel hmem)

end Locale

end Phrasebook
