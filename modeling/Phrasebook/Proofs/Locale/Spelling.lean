import Phrasebook.Locator
import Phrasebook.Proofs.Locale.Chain

/-!
# Spellings of a tag

A reader of tags passes over white space around a tag, takes both separators alike and does not look
at the case of letters. Texts that differ in nothing else denote the same locale, so they have the
same chain and the same files.
-/

namespace Phrasebook

namespace Text

section Map

variable {p : Char → Bool} {f : Char → Char}

theorem splitBy_map (hf : ∀ c, p (f c) = p c) (s : Text) :
    splitBy p (s.map f) = (splitBy p s).map (·.map f) := by
  refine splitBy_induction
    (motive := fun s pieces => splitBy p (s.map f) = pieces.map (·.map f)) ?_ ?_ s
  · intro s hs
    exact splitBy_of_forall (by simpa [hf] using hs)
  · intro piece c rest hpiece hc ih
    have hpiece' : ∀ d ∈ piece.map f, p d = false := by simpa [hf] using hpiece
    rw [List.map_append, List.map_cons, splitBy_append_cons hpiece' ((hf c).trans hc), ih,
      List.map_cons]

theorem dropEndWhile_map (hf : ∀ c, p (f c) = p c) (s : Text) :
    dropEndWhile p (s.map f) = (dropEndWhile p s).map f := by
  induction s with
  | nil => rfl
  | cons c s ih =>
      rw [List.map_cons, dropEndWhile, dropEndWhile, ih]
      cases dropEndWhile p s with
      | nil => cases hc : p c <;> simp [hf, hc]
      | cons d rest => rfl

theorem trim_map (hf : ∀ c, isBlank (f c) = isBlank c) (s : Text) :
    trim (s.map f) = (trim s).map f := by
  have hcomp : isBlank ∘ f = isBlank := funext hf
  rw [trim, trimStart, List.dropWhile_map, hcomp]
  exact dropEndWhile_map hf _

end Map

/-- White space at the two ends has no part in what trimming leaves. -/
theorem trim_append_append {before after : Text} (hbefore : ∀ c ∈ before, isBlank c = true)
    (hafter : ∀ c ∈ after, isBlank c = true) (s : Text) :
    trim (before ++ s ++ after) = trim s := by
  rw [trim, trimStart, List.append_assoc, List.dropWhile_append_of_pos hbefore,
    List.dropWhile_append]
  split
  · next hnil =>
      have hs : s.dropWhile isBlank = [] := List.isEmpty_iff.1 hnil
      rw [List.dropWhile_eq_nil_iff.2 hafter, trim, trimStart, hs]
  · exact dropEndWhile_append_of_forall hafter _

end Text

namespace LanguageTag

/-! ## Subtags in lower case -/

theorem isScript_map_toLower (s : Text) : isScript (s.map Char.toLower) = isScript s := by
  simp [isScript, all_map Char.isAlpha_toLower_eq_isAlpha]

theorem isRegion_map_toLower (s : Text) : isRegion (s.map Char.toLower) = isRegion s := by
  simp [isRegion, all_map Char.isAlpha_toLower_eq_isAlpha, all_map isDigit_toLower]

theorem titleCase_map_toLower (s : Text) : titleCase (s.map Char.toLower) = titleCase s := by
  cases s with
  | nil => rfl
  | cons c s => simp [titleCase, Function.comp_def]

theorem map_toUpper_map_toLower (s : Text) :
    (s.map Char.toLower).map Char.toUpper = s.map Char.toUpper := by
  simp [Function.comp_def]

theorem takeSubtag_map {p : Text → Bool} {canonical f : Text → Text} (hp : ∀ s, p (f s) = p s)
    (hcanonical : ∀ s, canonical (f s) = canonical s) (pieces : List Text) :
    takeSubtag p canonical (pieces.map f) =
      ((takeSubtag p canonical pieces).1, (takeSubtag p canonical pieces).2.map f) := by
  cases pieces with
  | nil => rfl
  | cons s pieces => cases hs : p s <;> simp [takeSubtag, hp, hcanonical, hs]

/-- A row of subtags is read like the row in lower case. -/
theorem ofSubtags_map_toLower (pieces : List Text) :
    ofSubtags (pieces.map (·.map Char.toLower)) = ofSubtags pieces := by
  cases pieces with
  | nil => rfl
  | cons language pieces =>
      have hlower : isVariant ∘ (·.map Char.toLower) = isVariant := funext isVariant_map_toLower
      simp only [List.map_cons, ofSubtags, isLanguage_map_toLower, map_toLower_map_toLower,
        takeSubtag_map isScript_map_toLower titleCase_map_toLower,
        takeSubtag_map isRegion_map_toLower map_toUpper_map_toLower, List.all_map, hlower,
        List.foldl_map]

/-! ## Characters of a tag -/

/-- Whether two characters differ at most in the case of an ASCII letter, or are both separators. -/
def SameCharacter (c d : Char) : Prop :=
  c.toLower = d.toLower ∨ (isSeparator c = true ∧ isSeparator d = true)

/-- A character with all its spellings in one. -/
def plainCharacter (c : Char) : Char := if isSeparator c then '-' else c.toLower

theorem isSeparator_plainCharacter (c : Char) : isSeparator (plainCharacter c) = isSeparator c := by
  unfold plainCharacter
  split
  · next hc => rw [hc]; rfl
  · exact isSeparator_toLower c

theorem isBlank_of_isSeparator {c : Char} (hc : isSeparator c = true) :
    Text.isBlank c = false := by
  simp only [isSeparator, Bool.or_eq_true, beq_iff_eq] at hc
  rcases hc with rfl | rfl <;> rfl

theorem isBlank_plainCharacter (c : Char) : Text.isBlank (plainCharacter c) = Text.isBlank c := by
  unfold plainCharacter
  split
  · next hc => rw [isBlank_of_isSeparator hc]; rfl
  · exact isBlank_toLower c

theorem SameCharacter.plainCharacter_eq {c d : Char} (h : SameCharacter c d) :
    plainCharacter c = plainCharacter d := by
  rcases h with hlower | ⟨hc, hd⟩
  · have hseparator : isSeparator c = isSeparator d := by
      rw [← isSeparator_toLower c, hlower, isSeparator_toLower]
    simp [plainCharacter, hseparator, hlower]
  · simp [plainCharacter, hc, hd]

theorem map_plainCharacter_of_forall {s : Text} (hs : ∀ c ∈ s, isSeparator c = false) :
    s.map plainCharacter = s.map Char.toLower :=
  List.map_congr_left fun c hc => by simp [plainCharacter, hs c hc]

end LanguageTag

namespace Locale

open LanguageTag

/-- Whether a text is `core` with nothing but white space around it. -/
def Surrounds (core s : Text) : Prop :=
  ∃ before after, s = before ++ core ++ after ∧
    (∀ c ∈ before, Text.isBlank c = true) ∧ ∀ c ∈ after, Text.isBlank c = true

/-- Whether two texts differ only in the case of ASCII letters, in `-` against `_` and in white
space around them. -/
def SameSpelling (s t : Text) : Prop :=
  ∃ core other, Surrounds core s ∧ Surrounds other t ∧ List.Forall₂ SameCharacter core other

theorem Surrounds.trim_eq {core s : Text} (h : Surrounds core s) :
    Text.trim s = Text.trim core := by
  obtain ⟨before, after, rfl, hbefore, hafter⟩ := h
  exact Text.trim_append_append hbefore hafter core

theorem SameSpelling.map_trim_eq {s t : Text} (h : SameSpelling s t) :
    (Text.trim s).map plainCharacter = (Text.trim t).map plainCharacter := by
  obtain ⟨core, other, hs, ht, hsame⟩ := h
  have hplain : core.map plainCharacter = other.map plainCharacter := by
    rw [← List.forall₂_eq_eq_eq, List.forall₂_map_left_iff, List.forall₂_map_right_iff]
    exact hsame.imp fun _ _ => SameCharacter.plainCharacter_eq
  rw [hs.trim_eq, ht.trim_eq, ← Text.trim_map isBlank_plainCharacter, hplain,
    Text.trim_map isBlank_plainCharacter]

/-- The subtags of both spellings are the same in lower case. -/
theorem ofSubtags_splitBy_congr {s t : Text}
    (h : s.map plainCharacter = t.map plainCharacter) :
    ofSubtags (Text.splitBy isSeparator s) = ofSubtags (Text.splitBy isSeparator t) := by
  have hlower : ∀ s : Text, (Text.splitBy isSeparator s).map (·.map Char.toLower) =
      Text.splitBy isSeparator (s.map plainCharacter) := by
    intro s
    rw [Text.splitBy_map isSeparator_plainCharacter]
    refine List.map_congr_left fun piece hpiece => ?_
    exact (map_plainCharacter_of_forall (Text.eq_false_of_mem_splitBy s piece hpiece)).symm
  rw [← ofSubtags_map_toLower, hlower, h, ← hlower, ofSubtags_map_toLower]

theorem mapError_fault_ofReading (s : Text) (reading : Except Fault LanguageTag) :
    (ofReading s reading).mapError Invalid.fault =
      reading.map fun tag => if tag = .empty then .invariant else .tagged tag := by
  cases reading <;> rfl

/-- Reading gives the same for both spellings, except that a refusal quotes the text that it is
about. -/
theorem mapError_fault_parse {s t : Text} (h : SameSpelling s t) :
    (parse s).mapError Invalid.fault = (parse t).mapError Invalid.fault := by
  have hplain := h.map_trim_eq
  by_cases hs : Text.trim s = []
  · have ht : Text.trim t = [] := by simpa [hs] using hplain.symm
    rw [parse_of_trim_eq_nil hs, parse_of_trim_eq_nil ht]
  · have ht : Text.trim t ≠ [] := by
      intro ht
      exact hs (by simpa [ht] using hplain)
    rw [parse_of_trim_ne_nil hs, parse_of_trim_ne_nil ht, mapError_fault_ofReading,
      mapError_fault_ofReading, ofSubtags_splitBy_congr hplain]

theorem parse_eq_ok_iff_of_sameSpelling {s t : Text} (h : SameSpelling s t) (locale : Locale) :
    parse s = .ok locale ↔ parse t = .ok locale := by
  have hok : ∀ reading : Except Invalid Locale,
      reading.mapError Invalid.fault = .ok locale ↔ reading = .ok locale := by
    intro reading
    cases reading <;> simp [Except.mapError]
  rw [← hok, mapError_fault_parse h, hok]

/-- Of two spellings of a tag both are read or both are refused, for the same fault. What is read is
the same locale, with the same chain and the same candidates for every name. -/
theorem parse_sameSpelling {s t : Text} (h : SameSpelling s t) :
    ((∃ locale, parse s = .ok locale) ↔ ∃ locale, parse t = .ok locale) ∧
    (∀ locale other, parse s = .ok locale → parse t = .ok other →
      locale = other ∧ locale.chain = other.chain ∧
        ∀ (locator : Locator) (name : Text),
          locator.candidates name locale = locator.candidates name other) ∧
    ∀ refusal other, parse s = .error refusal → parse t = .error other →
      refusal.fault = other.fault := by
  refine ⟨exists_congr (parse_eq_ok_iff_of_sameSpelling h), ?_, ?_⟩
  · intro locale other hs ht
    have ht' := (parse_eq_ok_iff_of_sameSpelling h locale).1 hs
    obtain rfl : locale = other := Except.ok.inj (ht'.symm.trans ht)
    exact ⟨rfl, rfl, fun _ _ => rfl⟩
  · intro refusal other hs ht
    have hfault := mapError_fault_parse h
    rw [hs, ht] at hfault
    exact Except.error.inj hfault

/-- Letters in the other case, separators the other way round and a line break. -/
theorem parse_sameSpelling_script :
    SameSpelling " SR_lATN-rs_1A!X" "sr-Latn_RS-1a!x\n" ∧
      parse " SR_lATN-rs_1A!X" = .ok (.tagged ⟨some "sr", some "Latn", some "RS", ["1a!x"]⟩) ∧
      parse "sr-Latn_RS-1a!x\n" = .ok (.tagged ⟨some "sr", some "Latn", some "RS", ["1a!x"]⟩) := by
  have hspelling : SameSpelling " SR_lATN-rs_1A!X" "sr-Latn_RS-1a!x\n" := by
    refine ⟨"SR_lATN-rs_1A!X", "sr-Latn_RS-1a!x", ⟨" ", "", rfl, ?_, nofun⟩,
      ⟨"", "\n", rfl, nofun, ?_⟩, ?_⟩
    · simp [Text.isBlank]
    · simp [Text.isBlank]
    · simp [SameCharacter, isSeparator]
  have hparse : parse " SR_lATN-rs_1A!X" =
      .ok (.tagged ⟨some "sr", some "Latn", some "RS", ["1a!x"]⟩) := by decide
  obtain ⟨hboth, hsame, -⟩ := parse_sameSpelling hspelling
  obtain ⟨other, hother⟩ := hboth.1 ⟨_, hparse⟩
  obtain ⟨rfl, -⟩ := hsame _ other hparse hother
  exact ⟨hspelling, hparse, hother⟩

end Locale

end Phrasebook
