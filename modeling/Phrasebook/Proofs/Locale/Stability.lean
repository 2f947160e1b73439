import Phrasebook.Proofs.Locale.Chain

/-!
# Reading canonical tags back

The canonical tag of a locale is read as that locale, with two exceptions. Sorting can move a
variant of four letters to the place of a script, and it can move a variant that ends in white space
to the end of the tag, where it is trimmed.
-/

namespace Phrasebook

namespace LanguageTag

/-- Whether the first variant stands where a script is looked for, and looks like one. -/
def LeadsWithScript (tag : LanguageTag) : Prop :=
  tag.script = none ∧ tag.region = none ∧ ∃ v, tag.variants.head? = some v ∧ isScript v = true

/-- Whether the tag ends in white space, which only a variant can hold. -/
def EndsInBlank (tag : LanguageTag) : Prop :=
  ∃ v, tag.variants.getLast? = some v ∧ EndsBlank v

/-- The subtags of a canonical tag at their places. -/
def parts (tag : LanguageTag) : Parts where
  language := tag.language.getD undetermined
  script := tag.script
  region := tag.region
  variants := tag.variants

theorem pieces_parts (tag : LanguageTag) : tag.parts.pieces = tag.subtags := rfl

namespace WellFormed

variable {tag : LanguageTag}

theorem isLanguage_parts (h : tag.WellFormed) : isLanguage tag.parts.language = true := by
  cases hl : tag.language with
  | none => simp only [parts, hl]; decide
  | some s => simpa [parts, hl] using (h.language s hl).1

/-- The canonical form of a canonical tag is the tag. -/
theorem tag_parts (h : tag.WellFormed) : tag.parts.tag = tag := by
  have hlanguage : tag.parts.tag.language = tag.language := by
    cases hl : tag.language with
    | none => simp only [Parts.tag, parts, hl]; decide
    | some s =>
        obtain ⟨-, hlower, hdetermined⟩ := h.language s hl
        simp [Parts.tag, parts, hl, hlower, hdetermined]
  have hscript : tag.script.map titleCase = tag.script := by
    cases hs : tag.script with
    | none => rfl
    | some s => simpa using (h.script s hs).2
  have hregion : tag.region.map (·.map Char.toUpper) = tag.region := by
    cases hr : tag.region with
    | none => rfl
    | some s => simpa using (h.region s hr).2
  have hvariants : canonicalVariants tag.variants = tag.variants :=
    canonicalVariants_eq_self (fun v hv => (h.variants v hv).2.1) h.sorted
  calc
    tag.parts.tag = ⟨tag.language, tag.script, tag.region, tag.variants⟩ := by
      rw [← hlanguage]
      simp only [Parts.tag, parts, hscript, hregion, hvariants]
    _ = tag := rfl

theorem head_isAlphanum (h : tag.WellFormed) :
    ∀ s ∈ tag.subtags, ∃ c rest, s = c :: rest ∧ c.isAlphanum = true := by
  have hfirm : ∀ s : Text, s ≠ [] → (∀ c ∈ s, c.isAlphanum = true) →
      ∃ c rest, s = c :: rest ∧ c.isAlphanum = true := by
    intro s hne hall
    obtain ⟨c, rest, rfl⟩ := List.exists_cons_of_ne_nil hne
    exact ⟨c, rest, rfl, hall c List.mem_cons_self⟩
  intro s hs
  simp only [subtags, List.mem_cons, List.mem_append, Option.mem_toList] at hs
  rcases hs with rfl | (hs | hs) | hs
  · refine hfirm _ ?_ (all_isAlphanum_of_isLanguage h.isLanguage_parts)
    intro hnil
    have hempty := h.isLanguage_parts
    simp only [parts, hnil] at hempty
    exact absurd hempty (by decide)
  · have hscript := (h.script s hs).1
    refine hfirm s ?_ (all_isAlphanum_of_isScript hscript)
    rintro rfl
    exact absurd hscript (by decide)
  · have hregion := (h.region s hs).1
    refine hfirm s ?_ (all_isAlphanum_of_isRegion hregion)
    rintro rfl
    exact absurd hregion (by decide)
  · have hvariant := (h.variants s hs).1
    by_cases hall : ∀ c ∈ s, c.isAlphanum = true
    · refine hfirm s ?_ hall
      rintro rfl
      exact absurd hvariant (by decide)
    · push Not at hall
      obtain ⟨c, hc, hother⟩ := hall
      obtain ⟨d, rest, rfl, hd, -⟩ :=
        head_isDigit_of_isVariant hvariant hc (by simpa using hother)
      exact ⟨d, rest, rfl, by simp [Char.isAlphanum, hd]⟩

/-- Only a variant can hold other characters than letters and digits. -/
theorem isAlphanum_or_mem_variants (h : tag.WellFormed) {s : Text} (hs : s ∈ tag.subtags) :
    (∀ c ∈ s, c.isAlphanum = true) ∨ s ∈ tag.variants := by
  simp only [subtags, List.mem_cons, List.mem_append, Option.mem_toList] at hs
  rcases hs with rfl | (hs | hs) | hs
  · exact .inl (all_isAlphanum_of_isLanguage h.isLanguage_parts)
  · exact .inl (all_isAlphanum_of_isScript (h.script s hs).1)
  · exact .inl (all_isAlphanum_of_isRegion (h.region s hs).1)
  · exact .inr hs

theorem isSeparator_subtags (h : tag.WellFormed) :
    ∀ s ∈ tag.subtags, ∀ c ∈ s, isSeparator c = false := by
  intro s hs c hc
  rcases h.isAlphanum_or_mem_variants hs with hall | hvariant
  · exact isSeparator_of_isAlphanum (hall c hc)
  · exact (h.variants s hvariant).2.2 c hc

/-- White space at the end of a subtag is in a variant. -/
theorem mem_variants_of_endsBlank (h : tag.WellFormed) {s : Text} (hs : s ∈ tag.subtags)
    (hblank : EndsBlank s) : s ∈ tag.variants := by
  refine (h.isAlphanum_or_mem_variants hs).resolve_left fun hall => ?_
  exact not_endsBlank_of_all_isAlphanum hall hblank

/-- A variant that ends in white space is a digit and three further characters. -/
theorem head_isDigit_of_endsBlank (h : tag.WellFormed) {v : Text} (hv : v ∈ tag.variants)
    (hblank : EndsBlank v) : ∃ d rest, v = d :: rest ∧ d.isDigit = true ∧ v.length = 4 := by
  obtain ⟨c, hc, hcblank⟩ := hblank
  have hother : c.isAlphanum = false := by
    by_contra halphanum
    have hfirm := isBlank_of_isAlphanum (by simpa using halphanum)
    simp [hcblank] at hfirm
  exact head_isDigit_of_isVariant (h.variants v hv).1 (List.mem_of_getLast? hc) hother

end WellFormed

/-! ## Reading the subtags -/

/-- The subtags of a canonical tag stand at their places with any row of variants whose first one
looks like no script and no region. -/
theorem placed_parts_with {tag : LanguageTag} (h : tag.WellFormed) {variants : List Text}
    (hscript : tag.script = none → tag.region = none →
      ∀ v, variants.head? = some v → isScript v = false)
    (hregion : ∀ v, variants.head? = some v → isRegion v = false) :
    Parts.Placed { tag.parts with variants := variants } where
  script := fun s hs => (h.script s hs).1
  region := fun s hs => (h.region s hs).1
  noScript := by
    intro hnone s hs
    cases hr : tag.region with
    | some r =>
        obtain rfl : r = s := by simpa [parts, hr] using hs
        exact isScript_of_isRegion (h.region r hr).1
    | none => exact hscript hnone hr s (by simpa [parts, hr] using hs)
  noRegion := fun _ v hv => hregion v hv

theorem placed_parts {tag : LanguageTag} (h : tag.WellFormed) (hlead : ¬tag.LeadsWithScript) :
    tag.parts.Placed := by
  apply placed_parts_with h
  · intro hscript hregion v hv
    by_contra hlike
    exact hlead ⟨hscript, hregion, v, hv, by simpa using hlike⟩
  · exact fun v hv => isRegion_of_isVariant (h.variants v (List.mem_of_head? hv)).1

theorem ofSubtags_subtags_eq_ok_iff {tag : LanguageTag} (h : tag.WellFormed) :
    ofSubtags tag.subtags = .ok tag ↔ ¬tag.LeadsWithScript := by
  constructor
  · rintro hread ⟨hscript, hregion, v, hv, hlike⟩
    obtain ⟨other, hplaced, hpieces, -, -, htag⟩ := ofSubtags_eq_ok_iff.1 hread
    have hnone : other.script = none := by
      have hmap := congrArg LanguageTag.script htag
      rw [hscript] at hmap
      exact Option.map_eq_none_iff.1 hmap
    have hrow : other.region.toList ++ other.variants = tag.variants := by
      have htail := congrArg List.tail hpieces
      simpa [Parts.pieces, subtags, hnone, hscript, hregion] using htail
    have hnot := hplaced.noScript hnone v (hrow ▸ hv)
    simp [hlike] at hnot
  · intro hlead
    exact ofSubtags_eq_ok_iff.2 ⟨tag.parts, placed_parts h hlead, pieces_parts tag,
      h.isLanguage_parts, fun v hv => (h.variants v hv).1, h.tag_parts⟩

/-- Digits come before letters. -/
theorem isScript_of_lt {u rest : Text} {d : Char} (hd : d.isDigit = true) (hlt : u < d :: rest) :
    isScript u = false := by
  cases u with
  | nil => rfl
  | cons a as =>
      have hle : a.toNat ≤ d.toNat := by
        rcases List.cons_lt_cons_iff.1 hlt with hlt | ⟨rfl, -⟩
        · exact Nat.le_of_lt (Char.lt_def.1 hlt)
        · exact le_rfl
      have hnine := (Char.isDigit_iff_toNat.1 hd).2
      simp only [Char.reduceToNat] at hnine
      have ha : a.isAlpha = false := by
        by_contra halpha
        have hletter := (isAlpha_iff a).1 (by simpa using halpha)
        omega
      simp [isScript, ha]

theorem isVariant_trimEnd {v : Text} (hfour : v.length = 4) (hblank : EndsBlank v) :
    isVariant (Text.trimEnd v) = false := by
  by_contra hvariant
  have hlong := four_le_length_of_isVariant (by simpa using hvariant)
  have hprefix : Text.trimEnd v <+: v := Text.dropEndWhile_isPrefix v
  have heq := hprefix.eq_of_length_le (by omega)
  obtain ⟨c, hc, hcblank⟩ := hblank
  rw [← heq] at hc
  have hfirm := Text.eq_false_of_getLast?_dropEndWhile v c hc
  simp [hcblank] at hfirm

/-- Behind a lesser variant, one that was trimmed is too short to be a variant. -/
theorem ofSubtags_trimmed {tag : LanguageTag} (h : tag.WellFormed) {vs : List Text} {v : Text}
    (hvariants : tag.variants = vs ++ [v]) (hblank : EndsBlank v) :
    ofSubtags (tag.subtags.dropLast ++ [Text.trimEnd v]) = .error .subtag := by
  have hv : v ∈ tag.variants := by simp [hvariants]
  obtain ⟨d, rest, hcons, hd, hfour⟩ := h.head_isDigit_of_endsBlank hv hblank
  have hvs : vs ≠ [] := by
    rintro rfl
    obtain ⟨s, hs, hfirm⟩ := h.closed (List.ne_nil_of_mem hv)
    obtain rfl : s = v := by simpa [hvariants] using hs
    exact hfirm hblank
  obtain ⟨u, us, rfl⟩ := List.exists_cons_of_ne_nil hvs
  have hu : u ∈ tag.variants := by simp [hvariants]
  have hlt : u < d :: rest := by
    have hsorted := h.sorted
    rw [hvariants] at hsorted
    rw [← hcons]
    exact (List.pairwise_append.1 hsorted).2.2 u List.mem_cons_self v (by simp)
  let cut : Parts := { tag.parts with variants := u :: us ++ [Text.trimEnd v] }
  have hplaced : cut.Placed := by
    apply placed_parts_with h
    · intro _ _ s hs
      obtain rfl : u = s := by simpa using hs
      exact isScript_of_lt hd hlt
    · intro s hs
      obtain rfl : u = s := by simpa using hs
      exact isRegion_of_isVariant (h.variants u hu).1
  have hpieces : tag.subtags.dropLast ++ [Text.trimEnd v] = cut.pieces := by
    have hrow : tag.subtags =
        (tag.parts.language :: (tag.script.toList ++ tag.region.toList ++ u :: us)) ++ [v] := by
      simp [subtags, parts, hvariants]
    rw [hrow, List.dropLast_concat]
    simp [cut, Parts.pieces, parts]
  have hall : cut.variants.all isVariant = false := by
    simp [cut, isVariant_trimEnd hfour hblank]
  rw [hpieces, ofSubtags_pieces hplaced, if_pos h.isLanguage_parts, hall]
  rfl

/-! ## Reading the text -/

theorem dropEndWhile_cons_ne_nil {p : Char → Bool} {c : Char} (hc : p c = false) (s : Text) :
    Text.dropEndWhile p (c :: s) ≠ [] := by
  rw [Text.dropEndWhile]
  split
  · simp [hc]
  · exact List.cons_ne_nil _ _

theorem head?_join {s : Text} {c : Char} (pieces : List Text) :
    (Text.join "-" ((c :: s) :: pieces)).head? = some c := by
  cases pieces <;> rfl

/-- Trimming a row of subtags without white space in front trims its last one. -/
theorem parse_join {front : List Text} {last : Text}
    (hhead : ∀ s ∈ front ++ [last], ∃ c rest, s = c :: rest ∧ c.isAlphanum = true)
    (hfree : ∀ s ∈ front ++ [last], ∀ c ∈ s, isSeparator c = false) :
    Locale.parse (Text.join "-" (front ++ [last])) =
      Locale.ofReading (Text.join "-" (front ++ [Text.trimEnd last]))
        (ofSubtags (front ++ [Text.trimEnd last])) := by
  have hstart : ∀ c, (Text.join "-" (front ++ [last])).head? = some c →
      Text.isBlank c = false := by
    intro c hc
    cases hrow : front ++ [last] with
    | nil => simp at hrow
    | cons first rest =>
        obtain ⟨d, s, rfl, hd⟩ := hhead first (by simp [hrow])
        rw [hrow, head?_join] at hc
        obtain rfl := Option.some.inj hc
        exact isBlank_of_isAlphanum hd
  have hlast : Text.trimEnd last ≠ [] := by
    obtain ⟨d, s, rfl, hd⟩ := hhead last (by simp)
    exact dropEndWhile_cons_ne_nil (isBlank_of_isAlphanum hd) s
  have htrim := Text.trim_join hstart hlast
  have hfree' : ∀ s ∈ front ++ [Text.trimEnd last], ∀ c ∈ s, isSeparator c = false := by
    intro s hs c hc
    rcases List.mem_append.1 hs with hs | hs
    · exact hfree s (by simp [hs]) c hc
    · obtain rfl := List.mem_singleton.1 hs
      exact hfree last (by simp) c ((Text.dropEndWhile_isPrefix last).subset hc)
  have hsplit : Text.splitBy isSeparator (Text.join "-" (front ++ [Text.trimEnd last])) =
      front ++ [Text.trimEnd last] :=
    Text.splitBy_join (rfl : isSeparator '-' = true) (by simp) hfree'
  have hne : Text.trim (Text.join "-" (front ++ [last])) ≠ [] := by
    intro hnil
    rw [htrim] at hnil
    rw [hnil] at hsplit
    simp only [Text.splitBy] at hsplit
    have hmem : Text.trimEnd last ∈ [([] : Text)] := by
      rw [hsplit]
      simp
    exact hlast (List.mem_singleton.1 hmem)
  rw [Locale.parse_of_trim_ne_nil hne, htrim, hsplit]

theorem trimEnd_eq_self {s : Text} (hs : ¬EndsBlank s) : Text.trimEnd s = s := by
  apply Text.dropEndWhile_eq_self
  intro c hc
  by_contra hblank
  exact hs ⟨c, hc, by simpa using hblank⟩

theorem parse_text_eq_ok_iff {tag : LanguageTag} (h : tag.WellFormed) (hne : tag ≠ .empty) :
    Locale.parse tag.text = .ok (.tagged tag) ↔ ¬tag.LeadsWithScript ∧ ¬tag.EndsInBlank := by
  obtain ⟨front, last, hrow⟩ : ∃ front last, tag.subtags = front ++ [last] :=
    ⟨_, _, (List.dropLast_append_getLast tag.subtags_ne_nil).symm⟩
  have hparse := parse_join (hrow ▸ h.head_isAlphanum) (hrow ▸ h.isSeparator_subtags)
  rw [← hrow] at hparse
  change Locale.parse tag.text = _ at hparse
  by_cases hblank : EndsBlank last
  · have hmem := h.mem_variants_of_endsBlank (by simp [hrow]) hblank
    obtain ⟨vs, v, hvariants⟩ : ∃ vs v, tag.variants = vs ++ [v] :=
      ⟨_, _, (List.dropLast_append_getLast (List.ne_nil_of_mem hmem)).symm⟩
    obtain rfl : last = v := by
      have hend := congrArg List.getLast? hrow
      rw [subtags, hvariants, ← List.append_assoc, ← List.cons_append, List.getLast?_concat,
        List.getLast?_concat] at hend
      exact (Option.some.inj hend).symm
    have hfault := ofSubtags_trimmed h hvariants hblank
    rw [hrow, List.dropLast_concat] at hfault
    have hend : tag.EndsInBlank := ⟨last, by simp [hvariants], hblank⟩
    rw [hparse, hfault, Locale.ofReading_eq_ok_tagged_iff]
    simp [hend]
  · have hend : ¬tag.EndsInBlank := by
      rintro ⟨v, hv, hvblank⟩
      have hvne : tag.variants ≠ [] := by
        rintro hnil
        simp [hnil] at hv
      have hlast := congrArg List.getLast? hrow
      rw [subtags, ← List.cons_append, List.getLast?_append_of_ne_nil _ hvne, hv] at hlast
      obtain rfl : v = last := by simpa using hlast
      exact hblank hvblank
    rw [trimEnd_eq_self hblank, ← hrow] at hparse
    rw [hparse, Locale.ofReading_eq_ok_tagged_iff, ofSubtags_subtags_eq_ok_iff h]
    simp [hne, hend]

/-! ## Plain variants -/

/-- A row without its last subtag is read with the same subtags at the same places. -/
theorem exists_parts_dropLast {parts : Parts} (hplaced : parts.Placed)
    (hplain : ∀ v ∈ parts.variants, isScript v = false ∧ isRegion v = false)
    (hne : parts.pieces.dropLast ≠ []) :
    ∃ shorter : Parts, shorter.Placed ∧ shorter.pieces = parts.pieces.dropLast ∧
      shorter.language = parts.language ∧ ∀ v ∈ shorter.variants, v ∈ parts.variants := by
  obtain ⟨language, script, region, variants⟩ := parts
  obtain ⟨hscript, hregion, hnoScript, hnoRegion⟩ := hplaced
  rcases List.eq_nil_or_concat variants with rfl | ⟨front, last, rfl⟩
  · cases region with
    | some r =>
        have hplaced' : Parts.Placed ⟨language, script, none, []⟩ :=
          ⟨hscript, by simp, by simp, by simp⟩
        refine ⟨⟨language, script, none, []⟩, hplaced', ?_, rfl, by simp⟩
        simp only [Parts.pieces, Option.toList_some, Option.toList_none, List.append_nil]
        rw [← List.cons_append, List.dropLast_concat]
    | none =>
        cases script with
        | some s =>
            have hplaced' : Parts.Placed ⟨language, none, none, []⟩ :=
              ⟨by simp, by simp, by simp, by simp⟩
            exact ⟨⟨language, none, none, []⟩, hplaced', rfl, rfl, by simp⟩
        | none => exact (hne rfl).elim
  · rw [List.concat_eq_append] at hplain
    refine ⟨⟨language, script, region, front⟩, ⟨hscript, hregion, ?_, ?_⟩, ?_, rfl, ?_⟩
    · intro _ s hs
      rcases List.mem_append.1 (List.mem_of_head? hs) with hr | hv
      · exact isScript_of_isRegion (hregion s (Option.mem_toList.1 hr))
      · exact (hplain s (by simp [hv])).1
    · intro _ v hv
      exact (hplain v (by simp [List.mem_of_head? hv])).2
    · have hrow : language :: (script.toList ++ region.toList ++ (front ++ [last])) =
          language :: (script.toList ++ region.toList ++ front) ++ [last] := by
        simp [List.append_assoc]
      rw [Parts.pieces, Parts.pieces, List.concat_eq_append, hrow, List.dropLast_concat]
    · intro v hv
      simp [hv]

end LanguageTag

namespace Locale

open LanguageTag

/-- The locales whose canonical tag is read back. -/
def IsStable : Locale → Prop
  | .invariant => True
  | .tagged tag => ¬tag.LeadsWithScript ∧ ¬tag.EndsInBlank

/-- Locales without variants of four letters and without white space at the end of a variant. -/
def HasPlainVariants : Locale → Prop
  | .invariant => True
  | .tagged tag => ∀ v ∈ tag.variants, isScript v = false ∧ ¬EndsBlank v

theorem HasPlainVariants.isStable {locale : Locale} (h : locale.HasPlainVariants) :
    locale.IsStable := by
  cases locale with
  | invariant => trivial
  | tagged tag =>
      refine ⟨?_, ?_⟩
      · rintro ⟨-, -, v, hv, hlike⟩
        simp [(h v (List.mem_of_head? hv)).1] at hlike
      · rintro ⟨v, hv, hblank⟩
        exact (h v (List.mem_of_getLast? hv)).2 hblank

theorem parse_tag_eq_ok_iff {locale : Locale} (h : locale.WellFormed) :
    parse locale.tag = .ok locale ↔ locale.IsStable := by
  cases locale with
  | invariant => exact iff_of_true rfl trivial
  | tagged tag => exact parse_text_eq_ok_iff h.1 h.2

theorem HasPlainVariants.parent? {locale parent : Locale} (hlocale : locale.WellFormed)
    (h : locale.HasPlainVariants) (hparent : locale.parent? = some parent) :
    parent.HasPlainVariants := by
  obtain ⟨tag, rfl, hparse | rfl⟩ := parent?_eq_some hparent
  · obtain ⟨htag, -⟩ := hlocale
    by_cases hone : tag.subtags.dropLast = []
    · rw [hone] at hparse
      obtain rfl : Locale.invariant = parent := Except.ok.inj hparse
      trivial
    have hmem : ∀ s ∈ tag.subtags.dropLast, s ∈ tag.subtags := fun s hs =>
      List.mem_of_mem_dropLast hs
    obtain ⟨front, last, hrow⟩ : ∃ front last, tag.subtags.dropLast = front ++ [last] :=
      ⟨_, _, (List.dropLast_append_getLast hone).symm⟩
    have hfirm : ¬EndsBlank last := by
      intro hblank
      have hv := htag.mem_variants_of_endsBlank (hmem last (by simp [hrow])) hblank
      exact (h last hv).2 hblank
    have hread : parse (Text.join "-" (front ++ [last])) = _ := parse_join
      (fun s hs => htag.head_isAlphanum s (hmem s (hrow ▸ hs)))
      (fun s hs => htag.isSeparator_subtags s (hmem s (hrow ▸ hs)))
    rw [trimEnd_eq_self hfirm, ← hrow, hparse] at hread
    have hlead := (HasPlainVariants.isStable h).1
    obtain ⟨shorter, hplaced, hpieces, hlanguage, hsub⟩ :=
      exists_parts_dropLast (placed_parts htag hlead)
        (fun v hv => ⟨(h v hv).1, isRegion_of_isVariant (htag.variants v hv).1⟩) hone
    have hok : ofSubtags tag.subtags.dropLast = .ok shorter.tag :=
      ofSubtags_eq_ok_iff.2 ⟨shorter, hplaced, hpieces, hlanguage ▸ htag.isLanguage_parts,
        fun v hv => (htag.variants v (hsub v hv)).1, rfl⟩
    rw [hok] at hread
    have hresult : parent = _ := Except.ok.inj hread
    split at hresult
    · rw [hresult]
      trivial
    · rw [hresult]
      intro w hw
      obtain ⟨v, hv, rfl⟩ := mem_canonicalVariants.1 hw
      rw [(htag.variants v (hsub v hv)).2.1]
      exact h v (hsub v hv)
  · trivial

theorem HasPlainVariants.of_mem_chain {locale : Locale} (hlocale : locale.WellFormed)
    (h : locale.HasPlainVariants) : ∀ level ∈ locale.chain, level.HasPlainVariants := by
  induction locale, hlocale using parent_induction with
  | invariant => simp [HasPlainVariants]
  | step locale parent hlocale hparent ih =>
      rw [chain_eq_cons hlocale hparent]
      intro level hlevel
      rcases List.mem_cons.1 hlevel with rfl | hlevel
      · exact h
      · exact ih (h.parent? hlocale hparent) level hlevel

/-- The tag of a locale in a chain is read as that locale exactly if no variant is taken for a
script and none is trimmed. With plain variants all tags of the chain are read back. -/
theorem parse_tag_of_mem_chain {s : Text} {locale : Locale} (h : parse s = .ok locale) :
    (∀ level ∈ locale.chain, parse level.tag = .ok level ↔ level.IsStable) ∧
    (locale.HasPlainVariants → ∀ level ∈ locale.chain, parse level.tag = .ok level) := by
  have hlocale := wellFormed_of_parse h
  have hlevel := wellFormed_of_mem_chain hlocale
  refine ⟨fun level hmem => parse_tag_eq_ok_iff (hlevel level hmem), fun hplain level hmem => ?_⟩
  have hstable := (hplain.of_mem_chain hlocale level hmem).isStable
  exact (parse_tag_eq_ok_iff (hlevel level hmem)).2 hstable

/-- Two variants out of order, one of them of four letters and digits. -/
theorem parse_tag_of_mem_chain_variants :
    parse " SL_rozaj-Biske-1994" =
        .ok (.tagged ⟨some "sl", none, none, ["1994", "biske", "rozaj"]⟩) ∧
      ∀ level ∈ chain (.tagged ⟨some "sl", none, none, ["1994", "biske", "rozaj"]⟩),
        parse level.tag = .ok level := by
  have hparse : parse " SL_rozaj-Biske-1994" =
      .ok (.tagged ⟨some "sl", none, none, ["1994", "biske", "rozaj"]⟩) := by decide
  have hplain : HasPlainVariants (.tagged ⟨some "sl", none, none, ["1994", "biske", "rozaj"]⟩) := by
    simp [HasPlainVariants, EndsBlank, isScript, Text.isBlank]
  exact ⟨hparse, (parse_tag_of_mem_chain hparse).2 hplain⟩

/-- The variant of four letters sorts to the front, where it is read as a script. -/
theorem parse_tag_ne_of_four_letters :
    parse "en-abcde-abcd" = .ok (.tagged ⟨some "en", none, none, ["abcd", "abcde"]⟩) ∧
      tag (.tagged ⟨some "en", none, none, ["abcd", "abcde"]⟩) = "en-abcd-abcde" ∧
      parse "en-abcd-abcde" = .ok (.tagged ⟨some "en", some "Abcd", none, ["abcde"]⟩) := by
  decide

end Locale

end Phrasebook
