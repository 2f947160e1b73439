import Phrasebook.Text.Lex

/-!
# Cutting joined texts

Where every token of the first text is read without a look at the second, the tokens of two joined
texts are those of the one followed by those of the other. A token can belong to more characters
than a text has left; then the scan runs over the end of the text.
-/

namespace Phrasebook.Text

variable {α : Type} {step : Char → Text → α × Nat}

theorem lex_cons (step : Char → Text → α × Nat) (c : Char) (s : Text) :
    lex step (c :: s) = (step c s).1 :: lex step (s.drop (step c s).2) := by
  rw [lex, lexFrom_zero, lexFrom_eq_lex_drop]

theorem lex_eq_nil_iff {s : Text} : lex step s = [] ↔ s = [] := by
  cases s with
  | nil => simp [lex]
  | cons c s => simp [lex_cons]

/-- What is read in front of `rest` stands in `P`: its first token does not depend on `rest`, and
what follows this token is in `P` again. -/
theorem lex_append {P : Text → Prop} {rest : Text}
    (hstep : ∀ c s, P (c :: s) → step c (s ++ rest) = step c s ∧ (step c s).2 ≤ s.length ∧
      P (s.drop (step c s).2)) {s : Text} (hs : P s) :
    lex step (s ++ rest) = lex step s ++ lex step rest := by
  induction hn : s.length using Nat.strongRecOn generalizing s with
  | ind n ih =>
      cases s with
      | nil => rfl
      | cons c s =>
          obtain ⟨hsame, hcount, hnext⟩ := hstep c s hs
          have hshorter : (s.drop (step c s).2).length < n := by
            rw [List.length_drop, ← hn, List.length_cons]
            omega
          rw [List.cons_append, lex_cons, hsame, List.drop_append_of_le_length hcount,
            ih _ hshorter hnext rfl, lex_cons, List.cons_append]

/-- Every token of a text in `P` is the first token of a text in `P`. -/
theorem forall_mem_lex {P : Text → Prop} {Q : α → Prop}
    (hstep : ∀ c s, P (c :: s) → Q (step c s).1 ∧ P (s.drop (step c s).2)) {s : Text} (hs : P s) :
    ∀ t ∈ lex step s, Q t := by
  induction hn : s.length using Nat.strongRecOn generalizing s with
  | ind n ih =>
      cases s with
      | nil => exact nofun
      | cons c s =>
          obtain ⟨hfirst, hnext⟩ := hstep c s hs
          have hshorter : (s.drop (step c s).2).length < n := by
            rw [List.length_drop, ← hn, List.length_cons]
            omega
          rw [lex_cons, List.forall_mem_cons]
          exact ⟨hfirst, ih _ hshorter hnext rfl⟩

/-! ## The end of a scan -/

/-- How many characters behind a text belong to its last token. -/
def overrun (step : Char → Text → α × Nat) : (skip : Nat) → Text → Nat
  | skip, [] => skip
  | skip + 1, _ :: s => overrun step skip s
  | 0, c :: s => overrun step (step c s).2 s

theorem overrun_eq (skip : Nat) (s : Text) :
    overrun step skip s = (skip - s.length) + overrun step 0 (s.drop skip) := by
  induction skip generalizing s with
  | zero => simp
  | succ skip ih =>
      cases s with
      | nil => rfl
      | cons c s =>
          rw [overrun, ih, List.length_cons, Nat.succ_sub_succ, List.drop_succ_cons]

/-- A scan ends at the end of a text if its first token stands in the text and the scan of what
follows ends there. -/
theorem overrun_eq_zero_iff {skip : Nat} {s : Text} :
    overrun step skip s = 0 ↔ skip ≤ s.length ∧ overrun step 0 (s.drop skip) = 0 := by
  rw [overrun_eq, Nat.add_eq_zero_iff, Nat.sub_eq_zero_iff_le]

end Phrasebook.Text
