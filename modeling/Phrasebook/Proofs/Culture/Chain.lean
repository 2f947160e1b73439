import Phrasebook.Culture.Lookup
import Phrasebook.Proofs.Locale.Levels

/-!
# Cultures along a chain

The first built-in culture along the chain of a locale is its culture, whatever is known of
separators elsewhere. It is one of the language of the locale, as the chain keeps the language. So a
locale shares the culture of its parent, unless it has one of its own or there is none in the chain
at all.
-/

namespace Phrasebook

namespace LanguageTag

theorem WellFormed.head?_splitBy_text {tag : LanguageTag} (htag : tag.WellFormed) :
    (Text.splitBy isSeparator tag.text).head? = some (tag.language.getD undetermined) := by
  have hsplit : Text.splitBy isSeparator tag.text = tag.subtags :=
    Text.splitBy_join (rfl : isSeparator '-' = true) tag.subtags_ne_nil htag.isSeparator_subtags
  rw [hsplit]
  rfl

end LanguageTag

namespace Culture

open LanguageTag

variable {separators : Locale → Option (Text × Text)} {locale parent level : Locale}
  {culture : Culture}

/-! ## Built-in cultures -/

theorem builtin?_nil : builtin? [] = none := by decide

/-- Every built-in culture is named for a locale with the language of its tag. -/
theorem language?_name_builtins :
    ∀ entry ∈ builtins, ∃ language,
      (Text.splitBy isSeparator entry.1.toList).head? = some language ∧
      language ≠ undetermined ∧
      (Locale.parse entry.2.name).map Locale.language? = .ok (some language) := by
  have hall : ∀ entry ∈ builtins,
      (Text.splitBy isSeparator entry.1.toList).head?.getD undetermined ≠ undetermined ∧
      (Locale.parse entry.2.name).map Locale.language? =
        .ok (Text.splitBy isSeparator entry.1.toList).head? := by
    decide
  intro entry hentry
  obtain ⟨hdetermined, hname⟩ := hall entry hentry
  cases hhead : (Text.splitBy isSeparator entry.1.toList).head? with
  | none => simp [hhead] at hdetermined
  | some language => exact ⟨language, rfl, by simpa [hhead] using hdetermined, hhead ▸ hname⟩

/-- A culture that is built in for a locale has its language. -/
theorem exists_parse_name_of_builtin? (hlevel : level.WellFormed)
    (h : builtin? level.tag = some culture) :
    ∃ named, Locale.parse culture.name = .ok named ∧ named.language? = level.language? := by
  cases level with
  | invariant => cases builtin?_nil.symm.trans h
  | tagged tag =>
      obtain ⟨known, hmem, htext⟩ := exists_mem_builtins h
      obtain ⟨language, hhead, hdetermined, hname⟩ := language?_name_builtins _ hmem
      have hlanguage : tag.language.getD undetermined = language := by
        rw [htext] at hhead
        exact Option.some.inj (hlevel.1.head?_splitBy_text.symm.trans hhead)
      have htag : tag.language = some language := by
        cases hsome : tag.language with
        | none => exact absurd (by simpa [hsome] using hlanguage.symm) hdetermined
        | some other => simpa [hsome] using hlanguage
      cases hparse : Locale.parse culture.name with
      | error refusal => simp [hparse, Except.map] at hname
      | ok named =>
          refine ⟨named, rfl, ?_⟩
          simpa [hparse, Except.map, htag, Locale.language?] using hname

/-! ## The first of a chain -/

/-- The first built-in culture of a chain, if there is one. -/
def firstBuiltin? (locale : Locale) : Option Culture :=
  locale.chain.findSome? fun level => builtin? level.tag

theorem ofLocaleWith_of_firstBuiltin? (h : firstBuiltin? locale = some culture) :
    ofLocaleWith separators locale = culture := by
  rw [firstBuiltin?] at h
  simp only [ofLocaleWith, h]

theorem ofLocaleWith_of_plain (hfirst : firstBuiltin? locale = none)
    (hplain : locale = .invariant ∨ separators locale = none) :
    ofLocaleWith separators locale = invariant := by
  rw [firstBuiltin?] at hfirst
  rcases hplain with rfl | hnone
  · simp only [ofLocaleWith, hfirst]
    rfl
  · simp only [ofLocaleWith, hfirst, hnone, ite_self]

theorem ofLocaleWith_of_separators {decimal group : Text} (hfirst : firstBuiltin? locale = none)
    (hne : locale ≠ .invariant) (hsome : separators locale = some (decimal, group)) :
    ofLocaleWith separators locale =
      { invariant with
        name := locale.tag, decimalSeparator := decimal, groupSeparator := group } := by
  have htagged : locale.isInvariant = false := by
    cases locale with
    | invariant => exact (hne rfl).elim
    | tagged tag => rfl
  rw [firstBuiltin?] at hfirst
  simp only [ofLocaleWith, hfirst, htagged, hsome]
  rfl

theorem firstBuiltin?_parent? (hlocale : locale.WellFormed)
    (hparent : locale.parent? = some parent) (hown : builtin? locale.tag = none) :
    firstBuiltin? parent = firstBuiltin? locale := by
  rw [firstBuiltin?, firstBuiltin?, Locale.chain_eq_cons hlocale hparent, List.findSome?_cons, hown]

/-- A built-in culture of a chain has the language of the locale on top. -/
theorem exists_parse_name_of_mem_chain (hlocale : locale.WellFormed)
    (hlevel : level ∈ locale.chain) (h : builtin? level.tag = some culture) :
    ∃ named, Locale.parse culture.name = .ok named ∧ named.language? = locale.language? := by
  have hne : level ≠ .invariant := by
    rintro rfl
    cases builtin?_nil.symm.trans h
  have hformed := Locale.wellFormed_of_mem_chain hlocale level hlevel
  obtain ⟨named, hparse, hlanguage⟩ := exists_parse_name_of_builtin? hformed h
  exact ⟨named, hparse, hlanguage.trans (Locale.language?_of_mem_chain hlocale level hlevel hne)⟩

/-- The culture of a locale is the first one along its chain that is built in. This culture has the
language of the locale, and the parent has the same one, unless it is that of the locale's own tag.
Without a built-in culture in the chain, a locale is written like the invariant one, except for the
name and the two separators, and without exception if it has no separators of its own. -/
theorem ofLocaleWith_follows_chain (separators : Locale → Option (Text × Text)) {s : Text}
    {locale : Locale} (h : Locale.parse s = .ok locale) :
    ((∃ level ∈ locale.chain, builtin? level.tag ≠ none) →
      ∃ before level after culture, locale.chain = before ++ level :: after ∧
        (∀ other ∈ before, builtin? other.tag = none) ∧ builtin? level.tag = some culture ∧
        ofLocaleWith separators locale = culture ∧
        (∃ named, Locale.parse culture.name = .ok named ∧
          named.language? = locale.language?) ∧
        (builtin? locale.tag = none → ∀ parent, locale.parent? = some parent →
          ofLocaleWith separators parent = culture)) ∧
    ((∀ level ∈ locale.chain, builtin? level.tag = none) →
      (∃ name decimal group, ofLocaleWith separators locale =
        { invariant with
          name := name, decimalSeparator := decimal, groupSeparator := group }) ∧
      (locale = .invariant ∨ separators locale = none →
        ofLocaleWith separators locale = invariant) ∧
      ∀ decimal group, locale ≠ .invariant → separators locale = some (decimal, group) →
        ofLocaleWith separators locale =
          { invariant with
            name := locale.tag, decimalSeparator := decimal, groupSeparator := group }) := by
  have hlocale := Locale.wellFormed_of_parse h
  constructor
  · rintro ⟨known, hknown, hbuiltin⟩
    cases hfirst : firstBuiltin? locale with
    | none => exact absurd (List.findSome?_eq_none_iff.1 hfirst known hknown) hbuiltin
    | some culture =>
        obtain ⟨before, level, after, hchain, hlevel, hbefore⟩ :=
          List.findSome?_eq_some_iff.1 hfirst
        have hmem : level ∈ locale.chain := by simp [hchain]
        refine ⟨before, level, after, culture, hchain, hbefore, hlevel,
          ofLocaleWith_of_firstBuiltin? hfirst,
          exists_parse_name_of_mem_chain hlocale hmem hlevel, ?_⟩
        intro hown parent hparent
        rw [← firstBuiltin?_parent? hlocale hparent hown] at hfirst
        exact ofLocaleWith_of_firstBuiltin? hfirst
  · intro hnone
    have hfirst : firstBuiltin? locale = none := List.findSome?_eq_none_iff.2 hnone
    refine ⟨?_, ofLocaleWith_of_plain hfirst, fun _ _ => ofLocaleWith_of_separators hfirst⟩
    by_cases hplain : locale = .invariant ∨ separators locale = none
    · exact ⟨"", ".", ",", ofLocaleWith_of_plain hfirst hplain⟩
    · obtain ⟨hne, hsome⟩ := not_or.1 hplain
      obtain ⟨⟨decimal, group⟩, hpair⟩ := Option.ne_none_iff_exists'.1 hsome
      exact ⟨_, decimal, group, ofLocaleWith_of_separators hfirst hne hpair⟩

/-- Austria has the culture of German in general, and Japan is written like no place in particular
with separators of its own. -/
theorem ofLocaleWith_follows_chain_german :
    let separators := fun _ : Locale => some (("." : Text), ("," : Text))
    let austria : Locale := .tagged ⟨some "de", none, some "AT", ["1996"]⟩
    let japan : Locale := .tagged ⟨some "ja", none, some "JP", []⟩
    Locale.parse "de-at-1996" = .ok austria ∧
      (∃ culture, ofLocaleWith separators austria = culture ∧
        (∃ named, Locale.parse culture.name = .ok named ∧ named.language? = some "de") ∧
        ofLocaleWith separators (.tagged ⟨some "de", none, some "AT", []⟩) = culture) ∧
      Locale.parse "ja_jp" = .ok japan ∧
      ofLocaleWith separators japan =
        { invariant with name := "ja-JP", decimalSeparator := ".", groupSeparator := "," } := by
  intro separators austria japan
  have haustria : Locale.parse "de-at-1996" = .ok austria := by decide
  have hjapan : Locale.parse "ja_jp" = .ok japan := by decide
  obtain ⟨hbuiltin, -⟩ := ofLocaleWith_follows_chain separators haustria
  obtain ⟨-, hplain⟩ := ofLocaleWith_follows_chain separators hjapan
  obtain ⟨-, -, -, culture, -, -, -, hculture, hnamed, hparent⟩ :=
    hbuiltin ⟨.tagged ⟨some "de", none, none, []⟩, by decide, by decide⟩
  obtain ⟨-, -, hseparators⟩ := hplain (by decide)
  exact ⟨haustria, ⟨culture, hculture, hnamed, hparent (by decide) _ (by decide)⟩, hjapan,
    hseparators "." "," nofun rfl⟩

end Culture

end Phrasebook
