import Phrasebook.Proofs.Calendar.Standard
import Phrasebook.Proofs.Text.Pieces

/-!
# Separators of a culture

What reading numbers back asks of a culture, and that the culture of every locale has it: separators
come from the tables or from what stands between the numeric characters of a sample.
-/

namespace Phrasebook.Culture

/-- Whether there is text to separate decimals and groups, none of it a digit. -/
def HasPlainSeparators (culture : Culture) : Prop :=
  culture.decimalSeparator ≠ [] ∧ culture.groupSeparator ≠ [] ∧
    ∀ c ∈ culture.decimalSeparator ++ culture.groupSeparator, c.isDigit = false

/-- Whether the percent and the currency pattern have a place for the magnitude. -/
def HasAmounts (culture : Culture) : Prop := 'n' ∈ culture.percent ∧ 'n' ∈ culture.currency

theorem isNumeric_of_isDigit {c : Char} (hc : c.isDigit = true) : Text.isNumeric c = true := by
  obtain ⟨hlow, hhigh⟩ := Char.isDigit_iff_toNat.1 hc
  have hrange : ((0x30, 0x39) : Nat × Nat) ∈ Text.numericRanges := List.mem_cons_self
  refine List.any_eq_true.2 ⟨_, hrange, ?_⟩
  simpa using And.intro hlow hhigh

theorem isDigit_eq_false_of_mem_separatorRuns {sample run : Text}
    (hrun : run ∈ separatorRuns sample) : run ≠ [] ∧ ∀ c ∈ run, c.isDigit = false := by
  obtain ⟨hmem, hne⟩ := List.mem_filter.1 hrun
  obtain ⟨piece, hpiece, rfl⟩ := List.mem_map.1 hmem
  refine ⟨by simpa using hne, fun c hc => ?_⟩
  have hfree := Text.eq_false_of_mem_splitBy sample piece hpiece c
    ((List.dropWhile_suffix _).subset ((Text.dropEndWhile_isPrefix _).subset hc))
  by_contra hdigit
  rw [isNumeric_of_isDigit (by simpa using hdigit)] at hfree
  cases hfree

theorem hasPlainSeparators_of_separatorsIn {sample decimal group : Text}
    (h : separatorsIn sample = some (decimal, group)) (culture : Culture) (name : Text) :
    HasPlainSeparators { culture with
      name := name, decimalSeparator := decimal, groupSeparator := group } := by
  unfold separatorsIn at h
  split at h
  · next first next rest hruns =>
      obtain ⟨rfl, rfl⟩ := Prod.mk.inj (Option.some.inj h)
      have hmem : (next :: rest).getLast (by simp) ∈ separatorRuns sample := by
        rw [hruns]
        exact List.mem_cons_of_mem _ (List.getLast_mem _)
      have hlast := isDigit_eq_false_of_mem_separatorRuns hmem
      have hfirst := isDigit_eq_false_of_mem_separatorRuns (hruns ▸ List.mem_cons_self)
      refine ⟨hlast.1, hfirst.1, fun c hc => ?_⟩
      rcases List.mem_append.1 hc with hc | hc
      · exact hlast.2 c hc
      · exact hfirst.2 c hc
  · cases h

theorem hasPlainSeparators_builtin :
    ∀ culture ∈ [enUS, enGB, de, deCH, fr, es, invariant],
      culture.HasPlainSeparators ∧ culture.HasAmounts := by
  have hall : ∀ culture ∈ [enUS, enGB, de, deCH, fr, es, invariant],
      (culture.decimalSeparator ≠ [] ∧ culture.groupSeparator ≠ [] ∧
        (culture.decimalSeparator ++ culture.groupSeparator).all (!·.isDigit) = true) ∧
      'n' ∈ culture.percent ∧ 'n' ∈ culture.currency := by
    decide
  intro culture hculture
  obtain ⟨⟨hdecimal, hgroup, hfree⟩, hamounts⟩ := hall culture hculture
  exact ⟨⟨hdecimal, hgroup, fun c hc => by simpa using List.all_eq_true.1 hfree c hc⟩, hamounts⟩

theorem hasPlainSeparators_ofLocale [LocaleData] (locale : Locale) :
    (ofLocale locale).HasPlainSeparators ∧ (ofLocale locale).HasAmounts := by
  have hinvariant := hasPlainSeparators_builtin invariant (by simp)
  rcases ofLocale_cases locale with hmem | heq | ⟨decimal, group, hseparators, heq⟩
  · exact hasPlainSeparators_builtin _ (List.mem_append_left [invariant] hmem)
  · rw [heq]
    exact hinvariant
  · rw [heq]
    obtain ⟨sample, -, hsample⟩ := Option.bind_eq_some_iff.1 hseparators
    exact ⟨hasPlainSeparators_of_separatorsIn hsample invariant _, hinvariant.2⟩

end Phrasebook.Culture
