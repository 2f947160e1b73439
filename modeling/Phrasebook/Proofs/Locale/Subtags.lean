import Mathlib
import Phrasebook.Locale.Basic
import Phrasebook.Proofs.Text.Order

/-!
# Subtags and their places

Which subtag stands for what depends on its place as much as on its form. A row of subtags is read
in exactly one way, and the canonical form of a subtag is of the same kind as the subtag.
-/

namespace Phrasebook

namespace LanguageTag

/-! ## Letters and digits -/

/-- The characters between which a tag is split. -/
def isSeparator (c : Char) : Bool := c == '-' || c == '_'

theorem isAlpha_iff (c : Char) :
    c.isAlpha = true ↔ 65 ≤ c.toNat ∧ c.toNat ≤ 90 ∨ 97 ≤ c.toNat ∧ c.toNat ≤ 122 := by
  simp [Char.isAlpha, Char.isUpper, Char.isLower, UInt32.le_iff_toNat_le]

theorem isBlank_of_isAlphanum {c : Char} (hc : c.isAlphanum = true) :
    Text.isBlank c = false := by
  rw [Char.isAlphanum, Bool.or_eq_true, isAlpha_iff, Char.isDigit_iff_toNat] at hc
  simp only [Char.reduceToNat] at hc
  simp only [Text.isBlank, Bool.or_eq_false_iff, Bool.and_eq_false_imp, decide_eq_true_eq,
    decide_eq_false_iff_not, beq_eq_false_iff_ne]
  omega

theorem isSeparator_of_isAlphanum {c : Char} (hc : c.isAlphanum = true) :
    isSeparator c = false := by
  have hdash : c ≠ '-' := by
    rintro rfl
    exact absurd hc (by decide)
  have hlow : c ≠ '_' := by
    rintro rfl
    exact absurd hc (by decide)
  simp [isSeparator, hdash, hlow]

theorem isAlphanum_of_isAlpha {c : Char} (hc : c.isAlpha = true) : c.isAlphanum = true := by
  simp [Char.isAlphanum, hc]

theorem isAscii_of_isAlpha {c : Char} (hc : c.isAlpha = true) : isAscii c = true := by
  rw [isAlpha_iff] at hc
  simp only [isAscii, Bool.and_eq_true, decide_eq_true_eq]
  omega

/-- A class of characters without letters is kept by the change to lower case. -/
theorem toLower_of_not_isAlpha {q : Char → Bool} (hq : ∀ c, c.isAlpha = true → q c = false)
    (c : Char) : q c.toLower = q c := by
  cases hc : c.isAlpha with
  | true =>
      have hlower : c.toLower.isAlpha = true := by rw [Char.isAlpha_toLower_eq_isAlpha, hc]
      rw [hq c hc, hq c.toLower hlower]
  | false =>
      have hupper : ¬ c.isUpper = true := by
        rw [Char.isAlpha, Bool.or_eq_false_iff] at hc
        simp [hc.1]
      rw [Char.toLower_eq_of_not_isUpper hupper]

theorem toUpper_of_not_isAlpha {q : Char → Bool} (hq : ∀ c, c.isAlpha = true → q c = false)
    (c : Char) : q c.toUpper = q c := by
  cases hc : c.isAlpha with
  | true =>
      have hupper : c.toUpper.isAlpha = true := by rw [Char.isAlpha_toUpper_eq_isAlpha, hc]
      rw [hq c hc, hq c.toUpper hupper]
  | false =>
      have hlower : ¬ c.isLower = true := by
        rw [Char.isAlpha, Bool.or_eq_false_iff] at hc
        simp [hc.2]
      rw [Char.toUpper_eq_of_not_isLower hlower]

theorem isDigit_of_isAlpha {c : Char} (hc : c.isAlpha = true) : c.isDigit = false := by
  rw [isAlpha_iff] at hc
  rw [← Bool.not_eq_true, Char.isDigit_iff_toNat]
  simp only [Char.reduceToNat]
  omega

@[simp] theorem isDigit_toLower (c : Char) : c.toLower.isDigit = c.isDigit :=
  toLower_of_not_isAlpha (fun _ => isDigit_of_isAlpha) c

@[simp] theorem isDigit_toUpper (c : Char) : c.toUpper.isDigit = c.isDigit :=
  toUpper_of_not_isAlpha (fun _ => isDigit_of_isAlpha) c

@[simp] theorem isAlphanum_toLower (c : Char) : c.toLower.isAlphanum = c.isAlphanum := by
  simp [Char.isAlphanum]

@[simp] theorem isBlank_toLower (c : Char) : Text.isBlank c.toLower = Text.isBlank c :=
  toLower_of_not_isAlpha (fun _ hc => isBlank_of_isAlphanum (isAlphanum_of_isAlpha hc)) c

@[simp] theorem isSeparator_toLower (c : Char) : isSeparator c.toLower = isSeparator c :=
  toLower_of_not_isAlpha (fun _ hc => isSeparator_of_isAlphanum (isAlphanum_of_isAlpha hc)) c

@[simp] theorem isAscii_toLower (c : Char) : isAscii c.toLower = isAscii c := by
  have hclass := toLower_of_not_isAlpha (q := fun c => !isAscii c)
    (fun c hc => by simp [isAscii_of_isAlpha hc]) c
  simpa using hclass

/-! ## Kinds of subtags -/

theorem all_map {q : Char → Bool} {f : Char → Char} (hf : ∀ c, q (f c) = q c) (s : Text) :
    (s.map f).all q = s.all q := by
  simp [List.all_map, Function.comp_def, hf]

theorem isLanguage_map_toLower (s : Text) : isLanguage (s.map Char.toLower) = isLanguage s := by
  simp [isLanguage, all_map Char.isAlpha_toLower_eq_isAlpha]

theorem isRegion_map_toUpper (s : Text) : isRegion (s.map Char.toUpper) = isRegion s := by
  simp [isRegion, all_map Char.isAlpha_toUpper_eq_isAlpha, all_map isDigit_toUpper]

theorem isVariant_map_toLower (s : Text) : isVariant (s.map Char.toLower) = isVariant s := by
  simp [isVariant, all_map isAlphanum_toLower, all_map isAscii_toLower, ← List.map_take,
    List.any_map, Function.comp_def]

@[simp] theorem length_titleCase (s : Text) : (titleCase s).length = s.length := by
  cases s <;> simp [titleCase]

theorem isScript_titleCase (s : Text) : isScript (titleCase s) = isScript s := by
  cases s with
  | nil => rfl
  | cons c s => simp [isScript, titleCase, all_map Char.isAlpha_toLower_eq_isAlpha]

@[simp] theorem map_toLower_map_toLower (s : Text) :
    (s.map Char.toLower).map Char.toLower = s.map Char.toLower := by
  simp [Function.comp_def]

@[simp] theorem map_toUpper_map_toUpper (s : Text) :
    (s.map Char.toUpper).map Char.toUpper = s.map Char.toUpper := by
  simp [Function.comp_def]

@[simp] theorem titleCase_titleCase (s : Text) : titleCase (titleCase s) = titleCase s := by
  cases s with
  | nil => rfl
  | cons c s => simp [titleCase, Function.comp_def]

theorem length_of_isRegion {s : Text} (hs : isRegion s = true) :
    s.length = 2 ∨ s.length = 3 := by
  simp only [isRegion, Bool.or_eq_true, Bool.and_eq_true, beq_iff_eq] at hs
  tauto

theorem four_le_length_of_isVariant {s : Text} (hs : isVariant s = true) : 4 ≤ s.length := by
  simp only [isVariant, Bool.or_eq_true, Bool.and_eq_true, decide_eq_true_eq, beq_iff_eq] at hs
  omega

theorem length_of_isScript {s : Text} (hs : isScript s = true) : s.length = 4 := by
  simp only [isScript, Bool.and_eq_true, beq_iff_eq] at hs
  exact hs.1

theorem isRegion_of_isVariant {s : Text} (hs : isVariant s = true) : isRegion s = false := by
  by_contra hregion
  have hlong := four_le_length_of_isVariant hs
  have hshort := length_of_isRegion (by simpa using hregion)
  omega

theorem isScript_of_isRegion {s : Text} (hs : isRegion s = true) : isScript s = false := by
  by_contra hscript
  have hshort := length_of_isRegion hs
  have hfour := length_of_isScript (by simpa using hscript)
  omega

theorem all_isAlphanum_of_isLanguage {s : Text} (hs : isLanguage s = true) :
    ∀ c ∈ s, c.isAlphanum = true := by
  simp only [isLanguage, Bool.and_eq_true, List.all_eq_true] at hs
  exact fun c hc => isAlphanum_of_isAlpha (hs.1 c hc)

theorem all_isAlphanum_of_isScript {s : Text} (hs : isScript s = true) :
    ∀ c ∈ s, c.isAlphanum = true := by
  simp only [isScript, Bool.and_eq_true, List.all_eq_true] at hs
  exact fun c hc => isAlphanum_of_isAlpha (hs.2 c hc)

theorem all_isAlphanum_of_isRegion {s : Text} (hs : isRegion s = true) :
    ∀ c ∈ s, c.isAlphanum = true := by
  simp only [isRegion, Bool.or_eq_true, Bool.and_eq_true, List.all_eq_true] at hs
  intro c hc
  rcases hs with ⟨_, hall⟩ | ⟨_, hall⟩ <;> simp [Char.isAlphanum, hall c hc]

/-- A variant with a character that is neither letter nor digit begins with a digit. -/
theorem head_isDigit_of_isVariant {s : Text} (hs : isVariant s = true) {c : Char} (hc : c ∈ s)
    (hother : c.isAlphanum = false) :
    ∃ d rest, s = d :: rest ∧ d.isDigit = true ∧ s.length = 4 := by
  simp only [isVariant, Bool.or_eq_true, Bool.and_eq_true, List.all_eq_true] at hs
  rcases hs with ⟨_, hall⟩ | ⟨⟨hfour, _⟩, hdigit⟩
  · exact absurd (hall c hc) (by simp [hother])
  · cases s with
    | nil => cases hc
    | cons d rest => exact ⟨d, rest, rfl, by simpa using hdigit, by simpa using hfour⟩

/-! ## The order of variants -/

theorem mem_insertVariant {v w : Text} {ws : List Text} :
    w ∈ insertVariant v ws ↔ w = v ∨ w ∈ ws := by
  induction ws with
  | nil => simp [insertVariant]
  | cons u ws ih =>
      cases hcompare : v.compare u with
      | lt => simp [insertVariant, hcompare]
      | eq =>
          obtain rfl := (Text.compare_eq_eq_iff v u).1 hcompare
          simp [insertVariant, hcompare]
      | gt =>
          simp only [insertVariant, hcompare, List.mem_cons, ih]
          tauto

theorem pairwise_insertVariant (v : Text) {ws : List Text} (hws : ws.Pairwise (· < ·)) :
    (insertVariant v ws).Pairwise (· < ·) := by
  induction ws with
  | nil => simp [insertVariant]
  | cons u ws ih =>
      obtain ⟨hu, hrest⟩ := List.pairwise_cons.1 hws
      cases hcompare : v.compare u with
      | lt =>
          have hvu := (Text.compare_eq_lt_iff v u).1 hcompare
          simp only [insertVariant, hcompare]
          refine List.pairwise_cons.2 ⟨fun w hw => ?_, hws⟩
          rcases List.mem_cons.1 hw with rfl | hw
          · exact hvu
          · exact hvu.trans (hu w hw)
      | eq => simpa [insertVariant, hcompare] using hws
      | gt =>
          have huv := (Text.compare_eq_gt_iff v u).1 hcompare
          simp only [insertVariant, hcompare]
          refine List.pairwise_cons.2 ⟨fun w hw => ?_, ih hrest⟩
          rcases mem_insertVariant.1 hw with rfl | hw
          · exact huv
          · exact hu w hw

theorem insertVariant_of_forall_lt {v : Text} {ws : List Text} (hws : ∀ w ∈ ws, w < v) :
    insertVariant v ws = ws ++ [v] := by
  induction ws with
  | nil => rfl
  | cons u ws ih =>
      have hcompare := (Text.compare_eq_gt_iff v u).2 (hws u List.mem_cons_self)
      have hrest := ih fun w hw => hws w (List.mem_cons_of_mem u hw)
      simp [insertVariant, hcompare, hrest]

theorem sum_length_insertVariant_le (v : Text) (ws : List Text) :
    ((insertVariant v ws).map (·.length + 1)).sum ≤
      (v.length + 1) + (ws.map (·.length + 1)).sum := by
  induction ws with
  | nil => simp [insertVariant]
  | cons u ws ih =>
      cases hcompare : v.compare u with
      | lt => simp [insertVariant, hcompare]
      | eq => simp [insertVariant, hcompare]
      | gt =>
          simp only [insertVariant, hcompare, List.map_cons, List.sum_cons]
          omega

/-- The variants in canonical form. -/
def canonicalVariants (vs : List Text) : List Text :=
  vs.foldl (fun ws v => insertVariant (v.map Char.toLower) ws) []

theorem canonicalVariants_append_singleton (vs : List Text) (v : Text) :
    canonicalVariants (vs ++ [v]) = insertVariant (v.map Char.toLower) (canonicalVariants vs) := by
  simp [canonicalVariants]

theorem mem_canonicalVariants {vs : List Text} {w : Text} :
    w ∈ canonicalVariants vs ↔ ∃ v ∈ vs, v.map Char.toLower = w := by
  induction vs using List.reverseRecOn with
  | nil => simp [canonicalVariants]
  | append_singleton vs v ih =>
      rw [canonicalVariants_append_singleton, mem_insertVariant, ih]
      simp [or_and_right, exists_or, eq_comm, or_comm]

theorem pairwise_canonicalVariants (vs : List Text) :
    (canonicalVariants vs).Pairwise (· < ·) := by
  induction vs using List.reverseRecOn with
  | nil => exact List.Pairwise.nil
  | append_singleton vs v ih =>
      rw [canonicalVariants_append_singleton]
      exact pairwise_insertVariant _ ih

theorem sum_length_canonicalVariants_le (vs : List Text) :
    ((canonicalVariants vs).map (·.length + 1)).sum ≤ (vs.map (·.length + 1)).sum := by
  induction vs using List.reverseRecOn with
  | nil => exact le_rfl
  | append_singleton vs v ih =>
      have hinsert := sum_length_insertVariant_le (v.map Char.toLower) (canonicalVariants vs)
      rw [canonicalVariants_append_singleton]
      simp only [List.map_append, List.sum_append, List.map_cons, List.map_nil, List.sum_cons,
        List.sum_nil, List.length_map] at hinsert ⊢
      omega

/-- Variants in canonical form and order stay as they are. -/
theorem canonicalVariants_eq_self {vs : List Text} (hlower : ∀ v ∈ vs, v.map Char.toLower = v)
    (hsorted : vs.Pairwise (· < ·)) : canonicalVariants vs = vs := by
  induction vs using List.reverseRecOn with
  | nil => rfl
  | append_singleton vs v ih =>
      obtain ⟨hfront, _, hbelow⟩ := List.pairwise_append.1 hsorted
      have hv : v.map Char.toLower = v := hlower v (by simp)
      have hvs := ih (fun w hw => hlower w (List.mem_append_left [v] hw)) hfront
      rw [canonicalVariants_append_singleton, hvs, hv]
      exact insertVariant_of_forall_lt fun w hw => hbelow w hw v (List.mem_singleton_self v)

/-! ## Places -/

/-- The subtags of a row by their places. -/
structure Parts where
  language : Text
  script : Option Text
  region : Option Text
  variants : List Text

namespace Parts

/-- The row itself. -/
def pieces (parts : Parts) : List Text :=
  parts.language :: (parts.script.toList ++ parts.region.toList ++ parts.variants)

/-- The tag that is read from the row. -/
def tag (parts : Parts) : LanguageTag where
  language :=
    if parts.language.map Char.toLower = undetermined then none
    else some (parts.language.map Char.toLower)
  script := parts.script.map titleCase
  region := parts.region.map (·.map Char.toUpper)
  variants := canonicalVariants parts.variants

/-- Whether a reader finds every subtag at its place: a script and a region are taken where they may
stand. -/
structure Placed (parts : Parts) : Prop where
  script : ∀ s ∈ parts.script, isScript s = true
  region : ∀ r ∈ parts.region, isRegion r = true
  noScript : parts.script = none →
    ∀ s, (parts.region.toList ++ parts.variants).head? = some s → isScript s = false
  noRegion : parts.region = none → ∀ v, parts.variants.head? = some v → isRegion v = false

end Parts

theorem takeSubtag_toList_append {p : Text → Bool} (canonical : Text → Text)
    {found : Option Text} {rest : List Text} (hfound : ∀ s ∈ found, p s = true)
    (hnone : found = none → ∀ s, rest.head? = some s → p s = false) :
    takeSubtag p canonical (found.toList ++ rest) = (found.map canonical, rest) := by
  cases found with
  | some s => simp [takeSubtag, hfound s rfl]
  | none =>
      cases rest with
      | nil => rfl
      | cons s rest => simp [takeSubtag, hnone rfl s rfl]

theorem exists_taken (p : Text → Bool) (pieces : List Text) :
    ∃ (found : Option Text) (rest : List Text), pieces = found.toList ++ rest ∧
      (∀ s ∈ found, p s = true) ∧
      (found = none → ∀ s, rest.head? = some s → p s = false) := by
  cases pieces with
  | nil => exact ⟨none, [], rfl, by simp, by simp⟩
  | cons s rest =>
      cases hs : p s with
      | true => exact ⟨some s, rest, rfl, by simpa using hs, by simp⟩
      | false => exact ⟨none, s :: rest, rfl, by simp, by simpa using hs⟩

theorem exists_placed (language : Text) (pieces : List Text) :
    ∃ parts : Parts, parts.Placed ∧ parts.language = language ∧
      parts.pieces = language :: pieces := by
  obtain ⟨script, rest, rfl, hscript, hnoScript⟩ := exists_taken isScript pieces
  obtain ⟨region, variants, rfl, hregion, hnoRegion⟩ := exists_taken isRegion rest
  refine ⟨⟨language, script, region, variants⟩, ⟨hscript, hregion, hnoScript, hnoRegion⟩, rfl, ?_⟩
  simp [Parts.pieces, List.append_assoc]

theorem ofSubtags_pieces {parts : Parts} (hplaced : parts.Placed) :
    ofSubtags parts.pieces =
      if isLanguage parts.language then
        if parts.variants.all isVariant then .ok parts.tag else .error .subtag
      else .error .language := by
  have hscript := takeSubtag_toList_append titleCase hplaced.script hplaced.noScript
  have hregion := takeSubtag_toList_append (·.map Char.toUpper) hplaced.region hplaced.noRegion
  simp only [Parts.pieces, ofSubtags, List.append_assoc, hscript, hregion]
  rfl

/-- A row of subtags is read in one way at most. -/
theorem ofSubtags_eq_ok_iff {pieces : List Text} {tag : LanguageTag} :
    ofSubtags pieces = .ok tag ↔ ∃ parts : Parts, parts.Placed ∧ parts.pieces = pieces ∧
      isLanguage parts.language = true ∧ (∀ v ∈ parts.variants, isVariant v = true) ∧
      parts.tag = tag := by
  constructor
  · intro h
    cases pieces with
    | nil => cases h
    | cons language rest =>
        obtain ⟨parts, hplaced, -, hpieces⟩ := exists_placed language rest
        rw [← hpieces, ofSubtags_pieces hplaced] at h
        split at h
        · next hlanguage =>
            split at h
            · next hvariants =>
                exact ⟨parts, hplaced, hpieces, hlanguage, List.all_eq_true.1 hvariants,
                  Except.ok.inj h⟩
            · cases h
        · cases h
  · rintro ⟨parts, hplaced, rfl, hlanguage, hvariants, rfl⟩
    rw [ofSubtags_pieces hplaced, if_pos hlanguage, if_pos (List.all_eq_true.2 hvariants)]

end LanguageTag

end Phrasebook
