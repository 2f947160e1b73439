import Phrasebook.Proofs.Locale.Subtags
import Phrasebook.Proofs.Text.Pieces

/-!
# Chains of locales

A parent is read afresh from a shortened tag. Reading never makes a tag longer, so the chain of a
locale ends, and it is the locale in front of the chain of its parent.
-/

namespace Phrasebook

namespace LanguageTag

/-! ## Canonical tags -/

/-- Whether a text ends in white space. -/
def EndsBlank (s : Text) : Prop := ∃ c, s.getLast? = some c ∧ Text.isBlank c = true

/-- Tags whose subtags have their kinds and are in canonical form and order. White space can only
stand in variants, and not at the end of all of them. -/
structure WellFormed (tag : LanguageTag) : Prop where
  language : ∀ s ∈ tag.language,
    isLanguage s = true ∧ s.map Char.toLower = s ∧ s ≠ undetermined
  script : ∀ s ∈ tag.script, isScript s = true ∧ titleCase s = s
  region : ∀ s ∈ tag.region, isRegion s = true ∧ s.map Char.toUpper = s
  variants : ∀ s ∈ tag.variants, isVariant s = true ∧ s.map Char.toLower = s ∧
    ∀ c ∈ s, isSeparator c = false
  sorted : tag.variants.Pairwise (· < ·)
  closed : tag.variants ≠ [] → ∃ s ∈ tag.variants, ¬EndsBlank s

theorem endsBlank_map_toLower {s : Text} : EndsBlank (s.map Char.toLower) ↔ EndsBlank s := by
  simp [EndsBlank]

theorem not_endsBlank_of_all_isAlphanum {s : Text} (hs : ∀ c ∈ s, c.isAlphanum = true) :
    ¬EndsBlank s := by
  rintro ⟨c, hc, hblank⟩
  have hfirm := isBlank_of_isAlphanum (hs c (List.mem_of_getLast? hc))
  simp [hblank] at hfirm

/-- Reading a row whose last subtag does not end in white space gives a well-formed tag. -/
theorem wellFormed_tag {parts : Parts} (hplaced : parts.Placed)
    (hlanguage : isLanguage parts.language = true)
    (hvariants : ∀ v ∈ parts.variants, isVariant v = true)
    (hfree : ∀ piece ∈ parts.pieces, ∀ c ∈ piece, isSeparator c = false)
    (hlast : ∀ last, parts.pieces.getLast? = some last → ¬EndsBlank last) :
    parts.tag.WellFormed where
  language := by
    intro s hs
    simp only [Parts.tag, Option.mem_def, Option.ite_none_left_eq_some] at hs
    obtain ⟨hdetermined, hs⟩ := hs
    obtain rfl := Option.some.inj hs
    exact ⟨(isLanguage_map_toLower _).trans hlanguage, map_toLower_map_toLower _, hdetermined⟩
  script := by
    intro s hs
    obtain ⟨raw, hraw, rfl⟩ := Option.map_eq_some_iff.1 hs
    exact ⟨(isScript_titleCase _).trans (hplaced.script raw hraw), titleCase_titleCase _⟩
  region := by
    intro s hs
    obtain ⟨raw, hraw, rfl⟩ := Option.map_eq_some_iff.1 hs
    exact ⟨(isRegion_map_toUpper _).trans (hplaced.region raw hraw), map_toUpper_map_toUpper _⟩
  variants := by
    intro s hs
    obtain ⟨raw, hraw, rfl⟩ := mem_canonicalVariants.1 hs
    refine ⟨(isVariant_map_toLower _).trans (hvariants raw hraw), map_toLower_map_toLower _, ?_⟩
    intro c hc
    obtain ⟨d, hd, rfl⟩ := List.mem_map.1 hc
    rw [isSeparator_toLower]
    exact hfree raw (by simp [Parts.pieces, hraw]) d hd
  sorted := pairwise_canonicalVariants _
  closed := by
    intro hne
    obtain ⟨v, hv⟩ := List.exists_mem_of_ne_nil _ hne
    obtain ⟨raw, hraw, -⟩ := mem_canonicalVariants.1 hv
    have hraws : parts.variants ≠ [] := List.ne_nil_of_mem hraw
    have hend : parts.pieces.getLast? = some (parts.variants.getLast hraws) := by
      rw [Parts.pieces, ← List.cons_append, List.getLast?_append_of_ne_nil _ hraws,
        List.getLast?_eq_some_getLast hraws]
    refine ⟨_, mem_canonicalVariants.2 ⟨_, List.getLast_mem hraws, rfl⟩, ?_⟩
    rw [endsBlank_map_toLower]
    exact hlast _ hend

theorem sum_length_subtags_tag_le (parts : Parts) :
    (parts.tag.subtags.map (·.length + 1)).sum ≤ (parts.pieces.map (·.length + 1)).sum := by
  have hvariants := sum_length_canonicalVariants_le parts.variants
  have hlanguage : (parts.tag.language.getD undetermined).length = parts.language.length := by
    simp only [Parts.tag]
    split
    · next h =>
        rw [Option.getD_none, ← h, List.length_map]
    · simp
  have hscript : (parts.tag.script.toList.map (·.length + 1)).sum =
      (parts.script.toList.map (·.length + 1)).sum := by
    cases hs : parts.script <;> simp [Parts.tag, hs]
  have hregion : (parts.tag.region.toList.map (·.length + 1)).sum =
      (parts.region.toList.map (·.length + 1)).sum := by
    cases hr : parts.region <;> simp [Parts.tag, hr]
  simp only [subtags, Parts.pieces, List.map_cons, List.map_append, List.sum_cons,
    List.sum_append, hlanguage, hscript, hregion]
  exact Nat.add_le_add_left (Nat.add_le_add_left hvariants _) _

theorem subtags_ne_nil (tag : LanguageTag) : tag.subtags ≠ [] := List.cons_ne_nil _ _

theorem length_text_add_one (tag : LanguageTag) :
    tag.text.length + 1 = (tag.subtags.map (·.length + 1)).sum :=
  Text.length_join_add_one '-' tag.subtags_ne_nil

end LanguageTag

namespace Locale

open LanguageTag

/-- Locales whose tag is well-formed and says something. -/
def WellFormed : Locale → Prop
  | .invariant => True
  | .tagged tag => tag.WellFormed ∧ tag ≠ .empty

/-! ## Reading -/

theorem parse_of_trim_eq_nil {s : Text} (hs : Text.trim s = []) : parse s = .ok .invariant := by
  simp [parse, hs]

/-- The locale of a tag that was read from a text. -/
def ofReading (s : Text) : Except Fault LanguageTag → Except Invalid Locale
  | .ok tag => .ok (if tag = .empty then .invariant else .tagged tag)
  | .error fault => .error ⟨s, fault⟩

theorem ofReading_eq_ok_tagged_iff {s : Text} {reading : Except Fault LanguageTag}
    {tag : LanguageTag} :
    ofReading s reading = .ok (.tagged tag) ↔ reading = .ok tag ∧ tag ≠ .empty := by
  cases reading with
  | error fault => simp [ofReading]
  | ok other =>
      by_cases hempty : other = .empty
      · simp only [ofReading, hempty, if_true, Except.ok.injEq, reduceCtorEq, false_iff, not_and]
        rintro rfl
        simp
      · simp only [ofReading, hempty, if_false, Except.ok.injEq, tagged.injEq]
        constructor
        · rintro rfl
          exact ⟨rfl, hempty⟩
        · exact And.left

theorem parse_of_trim_ne_nil {s : Text} (hs : Text.trim s ≠ []) :
    parse s =
      ofReading (Text.trim s) (ofSubtags (Text.splitBy isSeparator (Text.trim s))) := by
  unfold parse
  split
  · next h => exact (hs h).elim
  · rfl

/-- What is known of the row of subtags from which a tag was read. -/
theorem exists_parts_of_parse {s : Text} {tag : LanguageTag} (h : parse s = .ok (.tagged tag)) :
    ∃ parts : Parts, parts.Placed ∧
      parts.pieces = Text.splitBy isSeparator (Text.trim s) ∧
      isLanguage parts.language = true ∧ (∀ v ∈ parts.variants, isVariant v = true) ∧
      parts.tag = tag ∧ tag ≠ .empty := by
  have hne : Text.trim s ≠ [] := by
    intro hempty
    rw [parse_of_trim_eq_nil hempty] at h
    cases h
  rw [parse_of_trim_ne_nil hne, ofReading_eq_ok_tagged_iff, ofSubtags_eq_ok_iff] at h
  obtain ⟨⟨parts, hplaced, hpieces, hlanguage, hvariants, htag⟩, hempty⟩ := h
  exact ⟨parts, hplaced, hpieces, hlanguage, hvariants, htag, hempty⟩

theorem wellFormed_of_parse {s : Text} {locale : Locale} (h : parse s = .ok locale) :
    locale.WellFormed := by
  cases locale with
  | invariant => trivial
  | tagged tag =>
      obtain ⟨parts, hplaced, hpieces, hlanguage, hvariants, rfl, hempty⟩ := exists_parts_of_parse h
      refine ⟨wellFormed_tag hplaced hlanguage hvariants ?_ ?_, hempty⟩
      · rw [hpieces]
        exact Text.eq_false_of_mem_splitBy _
      · rw [hpieces]
        rintro last hlast ⟨c, hc, hblank⟩
        have hsuffix := Text.suffix_of_getLast?_splitBy _ last hlast
        have hend : (Text.trim s).getLast? = some c := by
          obtain ⟨front, hfront⟩ := hsuffix
          rw [← hfront, List.getLast?_append, hc]
          rfl
        have hfirm := Text.eq_false_of_getLast?_dropEndWhile _ c hend
        simp [hblank] at hfirm

/-- A tag in canonical form is not longer than the text that it was read from. -/
theorem length_tag_le_of_parse {s : Text} {locale : Locale} (h : parse s = .ok locale) :
    locale.tag.length ≤ s.length := by
  cases locale with
  | invariant => exact Nat.zero_le _
  | tagged tag =>
      obtain ⟨parts, -, hpieces, -, -, rfl, -⟩ := exists_parts_of_parse h
      have hcanonical := sum_length_subtags_tag_le parts
      have htext := length_text_add_one parts.tag
      have htrim := Text.length_trim_le s
      rw [hpieces, Text.sum_length_splitBy] at hcanonical
      simp only [tag]
      omega

/-! ## Parents -/

theorem parent?_eq_some {locale parent : Locale} (h : locale.parent? = some parent) :
    ∃ tag : LanguageTag, locale = .tagged tag ∧
      (parse (Text.join "-" tag.subtags.dropLast) = .ok parent ∨ parent = .invariant) := by
  cases locale with
  | invariant => cases h
  | tagged tag =>
      refine ⟨tag, rfl, ?_⟩
      simp only [parent?] at h
      split at h
      · next other hparse =>
          obtain rfl := Option.some.inj h
          exact .inl hparse
      · exact .inr (Option.some.inj h).symm

theorem wellFormed_of_parent? {locale parent : Locale} (h : locale.parent? = some parent) :
    parent.WellFormed := by
  obtain ⟨tag, -, hparse | rfl⟩ := parent?_eq_some h
  · exact wellFormed_of_parse hparse
  · trivial

theorem length_join_dropLast_lt {tag : LanguageTag} (htag : tag.WellFormed) :
    (Text.join "-" tag.subtags.dropLast).length < tag.text.length := by
  have htext := length_text_add_one tag
  have hsplit := List.dropLast_append_getLast tag.subtags_ne_nil
  rw [← hsplit, List.map_append, List.sum_append] at htext
  simp only [List.map_cons, List.map_nil, List.sum_cons, List.sum_nil] at htext
  by_cases hone : tag.subtags.dropLast = []
  · have hlanguage : isLanguage (tag.language.getD undetermined) = true := by
      cases hl : tag.language with
      | none => decide
      | some s => exact (htag.language s hl).1
    have hlast : tag.subtags.getLast tag.subtags_ne_nil = tag.language.getD undetermined := by
      have hsingle : tag.subtags.tail = [] := by
        have hlength := congrArg List.length hone
        rw [List.length_dropLast, List.length_nil] at hlength
        rw [← List.length_eq_zero_iff, List.length_tail, hlength]
      simp only [subtags, List.tail_cons] at hsingle
      simp [subtags, hsingle]
    have hpos : 0 < (tag.language.getD undetermined).length := by
      simp only [isLanguage, Bool.and_eq_true, Bool.or_eq_true, beq_iff_eq,
        decide_eq_true_eq] at hlanguage
      omega
    rw [hone] at htext ⊢
    rw [hlast] at htext
    simp only [List.map_nil, List.sum_nil] at htext
    simp only [Text.join, List.length_nil]
    omega
  · have hjoin := Text.length_join_add_one '-' hone
    have hcoe : Text.join "-" tag.subtags.dropLast = Text.join ['-'] tag.subtags.dropLast := rfl
    rw [hcoe]
    omega

/-- The tag of a parent is shorter. -/
theorem length_tag_parent?_lt {locale parent : Locale} (hlocale : locale.WellFormed)
    (h : locale.parent? = some parent) : parent.tag.length < locale.tag.length := by
  obtain ⟨tag, rfl, hparse | rfl⟩ := parent?_eq_some h
  · exact (length_tag_le_of_parse hparse).trans_lt (length_join_dropLast_lt hlocale.1)
  · exact Nat.zero_lt_of_lt (length_join_dropLast_lt hlocale.1)

theorem exists_parent?_of_tagged (tag : LanguageTag) :
    ∃ parent, (Locale.tagged tag).parent? = some parent := by
  simp only [parent?]
  split
  · exact ⟨_, rfl⟩
  · exact ⟨_, rfl⟩

/-! ## Chains -/

/-- Induction along parents: what holds of the invariant locale, and of a locale whenever it holds
of its parent, holds of all. -/
theorem parent_induction {motive : (locale : Locale) → locale.WellFormed → Prop}
    (invariant : motive .invariant trivial)
    (step : ∀ locale parent (hlocale : locale.WellFormed) (hparent : locale.parent? = some parent),
      motive parent (wellFormed_of_parent? hparent) → motive locale hlocale)
    (locale : Locale) (hlocale : locale.WellFormed) : motive locale hlocale := by
  induction hlength : locale.tag.length using Nat.strongRecOn generalizing locale with
  | ind n ih =>
      match locale with
      | .invariant => exact invariant
      | .tagged tag =>
          obtain ⟨parent, hparent⟩ := exists_parent?_of_tagged tag
          have hlt := length_tag_parent?_lt hlocale hparent
          exact step _ parent hlocale hparent (ih _ (hlength ▸ hlt) parent _ rfl)

theorem ancestors_succ {locale parent : Locale} (h : locale.parent? = some parent) (count : Nat) :
    ancestors (count + 1) locale = parent :: ancestors count parent := by
  simp [ancestors, h]

theorem ancestors_invariant (count : Nat) : ancestors count .invariant = [] := by
  cases count <;> rfl

/-- All counts from the length of the tag on give the same ancestors. -/
theorem ancestors_eq_of_le {locale : Locale} (hlocale : locale.WellFormed) {count : Nat}
    (hcount : locale.tag.length ≤ count) :
    ancestors count locale = ancestors locale.tag.length locale := by
  induction locale, hlocale using parent_induction generalizing count with
  | invariant => rw [ancestors_invariant, ancestors_invariant]
  | step locale parent hlocale hparent ih =>
      have hlt := length_tag_parent?_lt hlocale hparent
      obtain ⟨count, rfl⟩ := Nat.exists_eq_add_one_of_ne_zero (show count ≠ 0 by omega)
      obtain ⟨size, hsize⟩ :=
        Nat.exists_eq_add_one_of_ne_zero (show locale.tag.length ≠ 0 by omega)
      have hcount' : ancestors count parent = ancestors parent.tag.length parent := ih (by omega)
      have hsize' : ancestors size parent = ancestors parent.tag.length parent := ih (by omega)
      rw [hsize, ancestors_succ hparent, ancestors_succ hparent, hcount', hsize']

@[simp] theorem chain_invariant : chain .invariant = [.invariant] := rfl

theorem chain_eq_cons {locale parent : Locale} (hlocale : locale.WellFormed)
    (h : locale.parent? = some parent) : locale.chain = locale :: parent.chain := by
  have hlt := length_tag_parent?_lt hlocale h
  obtain ⟨size, hsize⟩ := Nat.exists_eq_add_one_of_ne_zero (show locale.tag.length ≠ 0 by omega)
  rw [chain, hsize, ancestors_succ h, ancestors_eq_of_le (wellFormed_of_parent? h) (by omega)]
  rfl

theorem wellFormed_of_mem_chain {locale : Locale} (hlocale : locale.WellFormed) :
    ∀ level ∈ locale.chain, level.WellFormed := by
  induction locale, hlocale using parent_induction with
  | invariant => simp [WellFormed]
  | step locale parent hlocale hparent ih =>
      rw [chain_eq_cons hlocale hparent]
      intro level hlevel
      rcases List.mem_cons.1 hlevel with rfl | hlevel
      · exact hlocale
      · exact ih level hlevel

theorem chain_ne_nil (locale : Locale) : locale.chain ≠ [] := List.cons_ne_nil _ _

theorem head?_chain (locale : Locale) : locale.chain.head? = some locale := rfl

theorem getLast?_chain {locale : Locale} (hlocale : locale.WellFormed) :
    locale.chain.getLast? = some .invariant := by
  induction locale, hlocale using parent_induction with
  | invariant => rfl
  | step locale parent hlocale hparent ih =>
      rw [chain_eq_cons hlocale hparent, List.getLast?_cons_of_ne_nil parent.chain_ne_nil, ih]

end Locale

end Phrasebook
