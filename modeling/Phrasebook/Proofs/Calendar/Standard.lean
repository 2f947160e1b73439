import Phrasebook.Culture.Lookup
import Phrasebook.Proofs.Calendar.Runs

/-!
# Standard date formats

The patterns that letters stand for have no long fraction in any culture, so a format is refused for
its own text only.
-/

namespace Phrasebook

open DatePattern (HasLongFraction)

namespace Moment

/-- The letters that stand for a pattern. -/
def dateLetters : List Char :=
  ['d', 'D', 'f', 'F', 'g', 'G', 't', 'T', 'M', 'm', 'Y', 'y', 's', 'u', 'O', 'o', 'R', 'r']

theorem standardPattern?_eq_none_iff (culture : Culture) {letter : Char} :
    standardPattern? culture letter = none ↔ letter ∉ dateLetters := by
  unfold standardPattern?
  split <;> simp_all [dateLetters]

end Moment

namespace Culture

/-- Whether no letter stands for a pattern with a long fraction. -/
def HasShortFractions (culture : Culture) : Prop :=
  ∀ letter pattern, Moment.standardPattern? culture letter = some pattern →
    ¬ HasLongFraction pattern

theorem hasShortFractions_of_all {culture : Culture}
    (h : Moment.dateLetters.all fun letter =>
      decide (¬ HasLongFraction ((Moment.standardPattern? culture letter).getD []))) :
    culture.HasShortFractions := by
  intro letter pattern hpattern
  have hletter : letter ∈ Moment.dateLetters := by
    refine Decidable.byContradiction fun hnot => ?_
    rw [(Moment.standardPattern?_eq_none_iff culture).2 hnot] at hpattern
    cases hpattern
  have hshort := of_decide_eq_true (List.all_eq_true.1 h letter hletter)
  rwa [hpattern] at hshort

/-- A culture that differs in its name and its separators only has the same patterns. -/
theorem HasShortFractions.with_separators {culture : Culture} (h : culture.HasShortFractions)
    (name decimal group : Text) :
    HasShortFractions { culture with
      name := name, decimalSeparator := decimal, groupSeparator := group } := by
  intro letter pattern hpattern
  exact h letter pattern hpattern

theorem hasShortFractions_invariant : invariant.HasShortFractions :=
  hasShortFractions_of_all (by decide)

theorem mem_of_builtin?_eq_some {tag : Text} {culture : Culture}
    (h : builtin? tag = some culture) : culture ∈ [enUS, enGB, de, deCH, fr, es] := by
  have hall : ∀ entry ∈ builtins, entry.2 ∈ [enUS, enGB, de, deCH, fr, es] := by simp [builtins]
  obtain ⟨known, hmem, -⟩ := exists_mem_builtins h
  exact hall _ hmem

/-- The culture of a locale is built in, or it is the invariant one, perhaps with other separators.
-/
theorem ofLocale_cases [LocaleData] (locale : Locale) :
    ofLocale locale ∈ [enUS, enGB, de, deCH, fr, es] ∨ ofLocale locale = invariant ∨
      ∃ decimal group, separators? locale = some (decimal, group) ∧
        ofLocale locale =
          { invariant with
            name := locale.tag, decimalSeparator := decimal, groupSeparator := group } := by
  unfold ofLocale ofLocaleWith
  split
  · next culture hfound =>
      obtain ⟨level, -, hlevel⟩ := List.exists_of_findSome?_eq_some hfound
      exact .inl (mem_of_builtin?_eq_some hlevel)
  · split
    · exact .inr (.inl rfl)
    · split
      · next decimal group hseparators => exact .inr (.inr ⟨decimal, group, hseparators, rfl⟩)
      · exact .inr (.inl rfl)

theorem hasShortFractions_builtin :
    ∀ culture ∈ [enUS, enGB, de, deCH, fr, es], culture.HasShortFractions := by
  intro culture hculture
  apply hasShortFractions_of_all
  revert culture
  decide

theorem hasShortFractions_ofLocale [LocaleData] (locale : Locale) :
    (ofLocale locale).HasShortFractions := by
  rcases ofLocale_cases locale with hmem | heq | ⟨decimal, group, -, heq⟩
  · exact hasShortFractions_builtin _ hmem
  · rw [heq]
    exact hasShortFractions_invariant
  · rw [heq]
    exact hasShortFractions_invariant.with_separators locale.tag decimal group

end Culture

namespace Moment

/-- The formats that no moment takes: one character that is no letter of a pattern, and longer ones
with a long fraction. -/
def Refuses (format : Text) : Prop :=
  (∃ letter, format = [letter] ∧ letter ∉ dateLetters) ∨
    2 ≤ format.length ∧ HasLongFraction format

theorem exists_custom_eq_error_iff {culture : Culture} {m : Moment} {pattern : Text} :
    (∃ fault, custom culture m pattern = .error fault) ↔ HasLongFraction pattern := by
  simp only [custom_eq_error_iff, exists_eq_left]

theorem format_letter_eq_error_iff {culture : Culture} (hculture : culture.HasShortFractions)
    (m : Moment) (letter : Char) :
    (∃ fault, m.format culture [letter] = .error fault) ↔ letter ∉ dateLetters := by
  rw [Moment.format, ← standardPattern?_eq_none_iff culture]
  cases hpattern : standardPattern? culture letter with
  | none => exact iff_of_true ⟨_, rfl⟩ rfl
  | some pattern =>
      refine iff_of_false (fun hfault => ?_) (by simp)
      exact hculture letter pattern hpattern (exists_custom_eq_error_iff.1 hfault)

theorem format_eq_error_iff {culture : Culture} (hculture : culture.HasShortFractions) (m : Moment)
    (format : Text) :
    (∃ fault, m.format culture format = .error fault) ↔ Refuses format := by
  match format with
  | [] =>
      refine exists_custom_eq_error_iff.trans (iff_of_false ?_ ?_)
      · simp [DatePattern.hasLongFraction_iff, DatePattern.ofText, Text.lex]
      · simp [Refuses]
  | [letter] =>
      rw [format_letter_eq_error_iff hculture]
      simp [Refuses]
  | c :: d :: rest =>
      refine exists_custom_eq_error_iff.trans ?_
      simp [Refuses]

end Moment

end Phrasebook
