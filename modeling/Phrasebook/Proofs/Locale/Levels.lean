import Phrasebook.Proofs.Locale.Stability

/-!
# The levels of a chain

A parent is read from the row of subtags without the last one. Whatever that row is read as, it has
no more subtags and the same language, or it is the invariant locale. So a chain goes down to the
invariant locale in at most as many steps as there are subtags, and keeps the language on the way.
-/

namespace Phrasebook

namespace LanguageTag

theorem length_insertVariant_le (v : Text) (ws : List Text) :
    (insertVariant v ws).length ≤ ws.length + 1 := by
  induction ws with
  | nil => simp [insertVariant]
  | cons u ws ih =>
      cases hcompare : v.compare u with
      | lt => simp [insertVariant, hcompare]
      | eq => simp [insertVariant, hcompare]
      | gt => simpa [insertVariant, hcompare] using ih

theorem length_canonicalVariants_le (vs : List Text) :
    (canonicalVariants vs).length ≤ vs.length := by
  induction vs using List.reverseRecOn with
  | nil => exact le_rfl
  | append_singleton vs v ih =>
      have hinsert := length_insertVariant_le (v.map Char.toLower) (canonicalVariants vs)
      rw [canonicalVariants_append_singleton, List.length_append, List.length_singleton]
      omega

theorem length_subtags_tag_le (parts : Parts) :
    parts.tag.subtags.length ≤ parts.pieces.length := by
  have hvariants := length_canonicalVariants_le parts.variants
  have hscript : (parts.script.map titleCase).toList.length = parts.script.toList.length := by
    simp [Option.toList_map]
  have hregion : (parts.region.map (·.map Char.toUpper)).toList.length =
      parts.region.toList.length := by
    simp [Option.toList_map]
  simpa [subtags, Parts.tag, Parts.pieces, hscript, hregion] using hvariants

/-- The language of a tag depends only on the first subtag of its row. -/
theorem language_tag_of_eq {parts : Parts} {tag : LanguageTag} (htag : tag.WellFormed)
    (h : parts.language = tag.language.getD undetermined) : parts.tag.language = tag.language := by
  have hparts : parts.tag.language = tag.parts.tag.language := by
    simp only [Parts.tag, h]
    rfl
  rw [hparts, htag.tag_parts]

theorem trimEnd_language {tag : LanguageTag} (htag : tag.WellFormed) :
    Text.trimEnd (tag.language.getD undetermined) = tag.language.getD undetermined :=
  trimEnd_eq_self
    (not_endsBlank_of_all_isAlphanum (all_isAlphanum_of_isLanguage htag.isLanguage_parts))

/-- The row from which a parent was read is the row of the tag without its last subtag, except for
white space at the end. -/
theorem exists_parts_of_parent {tag parent : LanguageTag} (htag : tag.WellFormed)
    (h : Locale.parse (Text.join "-" tag.subtags.dropLast) = .ok (.tagged parent)) :
    ∃ parts : Parts, parts.tag = parent ∧ parts.pieces.length < tag.subtags.length ∧
      parts.language = tag.language.getD undetermined := by
  by_cases hone : tag.subtags.dropLast = []
  · rw [hone] at h
    cases h
  obtain ⟨front, last, hrow⟩ : ∃ front last, tag.subtags.dropLast = front ++ [last] :=
    ⟨_, _, (List.dropLast_append_getLast hone).symm⟩
  have hmem : ∀ s ∈ front ++ [last], s ∈ tag.subtags := fun s hs =>
    List.mem_of_mem_dropLast (hrow ▸ hs)
  have hread : Locale.parse (Text.join "-" (front ++ [last])) = _ :=
    parse_join (fun s hs => htag.head_isAlphanum s (hmem s hs))
      (fun s hs => htag.isSeparator_subtags s (hmem s hs))
  rw [← hrow, h] at hread
  obtain ⟨hok, -⟩ := Locale.ofReading_eq_ok_tagged_iff.1 hread.symm
  obtain ⟨parts, -, hpieces, -, -, htext⟩ := ofSubtags_eq_ok_iff.1 hok
  refine ⟨parts, htext, ?_, ?_⟩
  · have hlength := congrArg List.length hrow
    have hpos := List.length_pos_iff.2 tag.subtags_ne_nil
    rw [List.length_dropLast, List.length_append, List.length_singleton] at hlength
    rw [hpieces, List.length_append, List.length_singleton]
    omega
  · have hfirst : (front ++ [last]).head? = some (tag.language.getD undetermined) := by
      rw [← hrow, subtags]
      cases htail : tag.script.toList ++ tag.region.toList ++ tag.variants with
      | nil => simp [subtags, htail] at hone
      | cons s rest => rfl
    have hhead := congrArg List.head? hpieces
    cases front with
    | nil =>
        obtain rfl : last = tag.language.getD undetermined := by simpa using hfirst
        simpa [Parts.pieces, trimEnd_language htag] using hhead
    | cons first front =>
        obtain rfl : first = tag.language.getD undetermined := by simpa using hfirst
        simpa [Parts.pieces] using hhead

end LanguageTag

namespace Locale

open LanguageTag

/-- The subtags of the canonical tag; the invariant locale has none. -/
def subtags : Locale → List Text
  | .invariant => []
  | .tagged tag => tag.subtags

/-- The language, if it is determined. -/
def language? : Locale → Option Text
  | .invariant => none
  | .tagged tag => tag.language

theorem length_subtags_parent?_lt {locale parent : Locale} (hlocale : locale.WellFormed)
    (h : locale.parent? = some parent) : parent.subtags.length < locale.subtags.length := by
  obtain ⟨tag, rfl, hparse | rfl⟩ := parent?_eq_some h
  · cases parent with
    | invariant => exact List.length_pos_iff.2 tag.subtags_ne_nil
    | tagged parent =>
        obtain ⟨parts, rfl, hlength, -⟩ := exists_parts_of_parent hlocale.1 hparse
        exact (length_subtags_tag_le parts).trans_lt hlength
  · exact List.length_pos_iff.2 tag.subtags_ne_nil

theorem language?_parent? {locale parent : Locale} (hlocale : locale.WellFormed)
    (h : locale.parent? = some parent) (hparent : parent ≠ .invariant) :
    parent.language? = locale.language? := by
  obtain ⟨tag, rfl, hparse | rfl⟩ := parent?_eq_some h
  · cases parent with
    | invariant => exact (hparent rfl).elim
    | tagged parent =>
        obtain ⟨parts, rfl, -, hlanguage⟩ := exists_parts_of_parent hlocale.1 hparse
        exact language_tag_of_eq hlocale.1 hlanguage
  · exact (hparent rfl).elim

/-! ## Going down a chain -/

/-- A locale, its parent, and so on down to one that has none. -/
inductive Levels : Locale → List Locale → Prop
  | last {locale : Locale} : locale.parent? = none → Levels locale [locale]
  | step {locale parent : Locale} {levels : List Locale} :
      locale.parent? = some parent → Levels parent levels → Levels locale (locale :: levels)

theorem Levels.unique {locale : Locale} {levels others : List Locale} (h : Levels locale levels)
    (hothers : Levels locale others) : levels = others := by
  induction h generalizing others with
  | last hnone =>
      cases hothers with
      | last => rfl
      | step hsome _ => simp [hnone] at hsome
  | step hsome _ ih =>
      cases hothers with
      | last hnone => simp [hsome] at hnone
      | step hsome' hrest =>
          obtain rfl := Option.some.inj (hsome.symm.trans hsome')
          rw [ih hrest]

theorem levels_iff {locale : Locale} (hlocale : locale.WellFormed) {levels : List Locale} :
    Levels locale levels ↔ levels = locale.chain := by
  have hchain : Levels locale locale.chain := by
    induction locale, hlocale using parent_induction with
    | invariant => exact .last rfl
    | step locale parent hlocale hparent ih =>
        rw [chain_eq_cons hlocale hparent]
        exact .step hparent ih
  constructor
  · intro h
    exact h.unique hchain
  · rintro rfl
    exact hchain

theorem chain_eq_append_invariant {locale : Locale} (hlocale : locale.WellFormed) :
    ∃ front, locale.chain = front ++ [.invariant] ∧ .invariant ∉ front := by
  induction locale, hlocale using parent_induction with
  | invariant => exact ⟨[], rfl, List.not_mem_nil⟩
  | step locale parent hlocale hparent ih =>
      obtain ⟨front, hfront, hnot⟩ := ih
      refine ⟨locale :: front, ?_, ?_⟩
      · rw [chain_eq_cons hlocale hparent, hfront, List.cons_append]
      · intro hmem
        rcases List.mem_cons.1 hmem with rfl | hmem
        · cases hparent
        · exact hnot hmem

/-- Every tag of a chain is shorter than all tags before it. -/
theorem pairwise_length_tag_chain {locale : Locale} (hlocale : locale.WellFormed) :
    locale.chain.Pairwise fun level below => below.tag.length < level.tag.length := by
  induction locale, hlocale using parent_induction with
  | invariant => exact List.pairwise_singleton _ _
  | step locale parent hlocale hparent ih =>
      have hlt := length_tag_parent?_lt hlocale hparent
      rw [chain_eq_cons hlocale hparent]
      refine List.pairwise_cons.2 ⟨fun level hlevel => ?_, ih⟩
      have hrow : parent.chain = parent :: parent.chain.tail := rfl
      rw [hrow] at hlevel ih
      rcases List.mem_cons.1 hlevel with rfl | hlevel
      · exact hlt
      · exact ((List.pairwise_cons.1 ih).1 level hlevel).trans hlt

theorem length_chain_le {locale : Locale} (hlocale : locale.WellFormed) :
    locale.chain.length ≤ locale.subtags.length + 1 := by
  induction locale, hlocale using parent_induction with
  | invariant => exact le_rfl
  | step locale parent hlocale hparent ih =>
      have hlt := length_subtags_parent?_lt hlocale hparent
      rw [chain_eq_cons hlocale hparent, List.length_cons]
      omega

theorem language?_of_mem_chain {locale : Locale} (hlocale : locale.WellFormed) :
    ∀ level ∈ locale.chain, level ≠ .invariant → level.language? = locale.language? := by
  induction locale, hlocale using parent_induction with
  | invariant => simp
  | step locale parent hlocale hparent ih =>
      intro level hlevel hne
      rw [chain_eq_cons hlocale hparent] at hlevel
      rcases List.mem_cons.1 hlevel with rfl | hlevel
      · rfl
      · have hparentNe : parent ≠ .invariant := by
          rintro rfl
          exact hne (by simpa using hlevel)
        rw [ih level hlevel hne, language?_parent? hlocale hparent hparentNe]

/-- The chain of a locale is finite: it goes from parent to parent down to the invariant locale,
each time to a shorter tag of the same language, and takes at most one step for every subtag. -/
theorem chain_descends {s : Text} {locale : Locale} (h : parse s = .ok locale) :
    (∀ levels, Levels locale levels ↔ levels = locale.chain) ∧
    (locale = .invariant → locale.chain = [locale]) ∧
    (∀ parent, locale.parent? = some parent → locale.chain = locale :: parent.chain) ∧
    (locale ≠ .invariant → ∃ parent, locale.parent? = some parent) ∧
    (∃ front, locale.chain = front ++ [.invariant] ∧ .invariant ∉ front) ∧
    (locale.chain.Pairwise fun level below => below.tag.length < level.tag.length) ∧
    locale.chain.Nodup ∧
    locale.chain.length ≤ locale.subtags.length + 1 ∧
    ∀ level ∈ locale.chain, level ≠ .invariant → level.language? = locale.language? := by
  have hlocale := wellFormed_of_parse h
  have hshorter := pairwise_length_tag_chain hlocale
  refine ⟨fun levels => levels_iff hlocale, ?_, fun parent => chain_eq_cons hlocale, ?_,
    chain_eq_append_invariant hlocale, hshorter, ?_, length_chain_le hlocale,
    language?_of_mem_chain hlocale⟩
  · rintro rfl
    rfl
  · intro hne
    cases locale with
    | invariant => exact (hne rfl).elim
    | tagged tag => exact exists_parent?_of_tagged tag
  · refine hshorter.imp fun hlt heq => ?_
    rw [heq] at hlt
    exact lt_irrefl _ hlt

/-- A tag without language, with a repeated variant and one that ends in white space. -/
theorem chain_descends_undetermined :
    parse "und_de-1AB -0xyz-0XYZ" =
        .ok (.tagged ⟨none, none, some "DE", ["0xyz", "1ab "]⟩) ∧
      (chain (.tagged ⟨none, none, some "DE", ["0xyz", "1ab "]⟩)).map tag =
        ["und-DE-0xyz-1ab ", "und-DE-0xyz", "und-DE", ""] ∧
      (chain (.tagged ⟨none, none, some "DE", ["0xyz", "1ab "]⟩)).length ≤ 4 + 1 := by
  have hparse : parse "und_de-1AB -0xyz-0XYZ" =
      .ok (.tagged ⟨none, none, some "DE", ["0xyz", "1ab "]⟩) := by decide
  obtain ⟨-, -, -, -, -, -, -, hlength, -⟩ := chain_descends hparse
  exact ⟨hparse, by decide, hlength⟩

end Locale

end Phrasebook
