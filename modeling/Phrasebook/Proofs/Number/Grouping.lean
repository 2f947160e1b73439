import Phrasebook.Number.Basic
import Phrasebook.Proofs.Text.Replace

/-!
# Groups of digits

Grouping joins the groups of three digits, counted from the right. So the digits come back when the
group separators are taken out, as long as a separator begins with something else than a digit.
-/

namespace Phrasebook.Number

/-- The text cut into groups of three, counted from the right. -/
def thousands : Text → List Text
  | [] => []
  | c :: s =>
    if s.length % 3 = 0 ∧ s ≠ [] then [c] :: thousands s
    else
      match thousands s with
      | [] => [[c]]
      | first :: others => (c :: first) :: others

theorem thousands_ne_nil {s : Text} (hs : s ≠ []) : thousands s ≠ [] := by
  cases s with
  | nil => exact (hs rfl).elim
  | cons c s =>
      unfold thousands
      split
      · exact List.cons_ne_nil _ _
      · split <;> exact List.cons_ne_nil _ _

/-- Where no group begins, the next character joins the first group. -/
theorem thousands_cons {c : Char} {s : Text} (h : ¬(s.length % 3 = 0 ∧ s ≠ [])) :
    ∃ first others, thousands (c :: s) = (c :: first) :: others ∧
      (s = [] ∧ first = [] ∧ others = [] ∨ thousands s = first :: others) := by
  rw [thousands, if_neg h]
  cases hgroups : thousands s with
  | nil =>
      refine ⟨[], [], rfl, .inl ⟨?_, rfl, rfl⟩⟩
      by_contra hs
      exact thousands_ne_nil hs hgroups
  | cons first others => exact ⟨first, others, rfl, .inr rfl⟩

theorem group_eq_join (separator s : Text) :
    group separator s = Text.join separator (thousands s) := by
  induction s with
  | nil => rfl
  | cons c s ih =>
      by_cases h : s.length % 3 = 0 ∧ s ≠ []
      · rw [group, if_pos h, thousands, if_pos h, Text.join_cons (thousands_ne_nil h.2), ← ih]
        simp
      · obtain ⟨first, others, hcons, hrest⟩ := thousands_cons (c := c) h
        rw [group, if_neg h, hcons, ih]
        rcases hrest with ⟨rfl, rfl, rfl⟩ | hrest
        · rfl
        · rw [hrest]
          cases others with
          | nil => rfl
          | cons next others => rfl

@[simp] theorem flatten_thousands (s : Text) : (thousands s).flatten = s := by
  induction s with
  | nil => rfl
  | cons c s ih =>
      by_cases h : s.length % 3 = 0 ∧ s ≠ []
      · rw [thousands, if_pos h, List.flatten_cons, ih]
        rfl
      · obtain ⟨first, others, hcons, hrest⟩ := thousands_cons (c := c) h
        rw [hcons]
        rcases hrest with ⟨rfl, rfl, rfl⟩ | hrest
        · rfl
        · rw [hrest] at ih
          exact congrArg (c :: ·) ih

theorem length_of_forall_three {groups : List Text} (h : ∀ digits ∈ groups, digits.length = 3) :
    groups.flatten.length = 3 * groups.length := by
  rw [List.length_flatten, List.map_congr_left h, List.map_const', List.sum_replicate, smul_eq_mul,
    Nat.mul_comm]

/-- Every group but the first one has three digits, and the first one has what these leave. -/
theorem exists_thousands_eq {s : Text} (hs : s ≠ []) :
    ∃ first others, thousands s = first :: others ∧ 1 ≤ first.length ∧ first.length ≤ 3 ∧
      ∀ digits ∈ others, digits.length = 3 := by
  induction s with
  | nil => exact (hs rfl).elim
  | cons c s ih =>
      by_cases hnil : s = []
      · subst hnil
        exact ⟨[c], [], rfl, le_rfl, by simp, nofun⟩
      · obtain ⟨first, others, hgroups, hpos, hle, hothers⟩ := ih hnil
        have hlength : first.length + 3 * others.length = s.length := by
          rw [← flatten_thousands s, hgroups, List.flatten_cons, List.length_append,
            length_of_forall_three hothers]
        by_cases hbreak : s.length % 3 = 0
        · have hfirst : first.length = 3 := by omega
          rw [thousands, if_pos ⟨hbreak, hnil⟩, hgroups]
          exact ⟨[c], first :: others, rfl, le_rfl, by simp,
            List.forall_mem_cons.2 ⟨hfirst, hothers⟩⟩
        · have hcons : thousands (c :: s) = (c :: first) :: others := by
            rw [thousands, if_neg fun h => hbreak h.1, hgroups]
          rw [hcons]
          refine ⟨c :: first, others, rfl, Nat.succ_pos _, ?_, hothers⟩
          rw [List.length_cons]
          omega

/-- Taking out the separators undoes the grouping. -/
theorem replaceAll_group {separator s : Text} (hseparator : separator ≠ [])
    (hfree : ∀ c ∈ separator, c ∉ s) (hs : s ≠ []) :
    Text.replaceAll separator [] (group separator s) = s := by
  obtain ⟨c, rest, rfl⟩ := List.exists_cons_of_ne_nil hseparator
  have hgroups : ∀ digits ∈ thousands s, c ∉ digits := by
    intro digits hdigits hc
    apply hfree c List.mem_cons_self
    rw [← flatten_thousands s]
    exact List.mem_flatten_of_mem hdigits hc
  rw [group_eq_join, Text.replaceAll_join hgroups (thousands_ne_nil hs), flatten_thousands]

end Phrasebook.Number
