import Mathlib.Data.List.TakeWhile
import Phrasebook.Proofs.Calendar.Runs
import Phrasebook.Proofs.Text.Lex

/-!
# Composing date patterns

Two patterns that are joined write what the first one writes and then what the second one writes, as
long as no piece reaches over the seam: the scan of the first pattern ends at its end, no run of
letters goes on in the second one, and no trimmed fraction of the second one looks back.
-/

namespace Phrasebook

namespace DatePattern

/-! ## Patterns whose scan ends at their end -/

/-- Whether the scan of a pattern ends exactly at its end. -/
def IsComplete (pattern : Text) : Prop := Text.overrun step 0 pattern = 0

instance (pattern : Text) : Decidable (IsComplete pattern) := by
  unfold IsComplete
  infer_instance

theorem isComplete_nil : IsComplete [] := rfl

theorem isComplete_cons_iff {c : Char} {s : Text} :
    IsComplete (c :: s) ↔ (step c s).2 ≤ s.length ∧ IsComplete (s.drop (step c s).2) := by
  rw [IsComplete, Text.overrun, Text.overrun_eq_zero_iff, IsComplete]

/-- How a character behind a text would be taken. -/
def modeBehind : Mode → Text → Mode
  | mode, [] => mode
  | .plain, c :: s =>
    if c = '\'' ∨ c = '"' then modeBehind (.quoted c) s
    else if c = '\\' then modeBehind .escaped s
    else modeBehind .plain s
  | .quoted mark, c :: s => modeBehind (if c = mark then .plain else .quoted mark) s
  | .escaped, _ :: s => modeBehind .plain s

theorem modeBehind_quoted (mark : Char) (s : Text) :
    modeBehind (.quoted mark) s =
      if mark ∈ s then modeBehind .plain (s.drop ((s.takeWhile (· != mark)).length + 1))
      else .quoted mark := by
  induction s with
  | nil => rfl
  | cons c s ih =>
      by_cases hc : c = mark
      · simp [modeBehind, hc]
      · simp [modeBehind, hc, Ne.symm hc, ih]

theorem modeBehind_run {c : Char} (hc : c ≠ '\'' ∧ c ≠ '"' ∧ c ≠ '\\') {count : Nat} {s : Text}
    (hcount : count ≤ (s.takeWhile (· == c)).length) :
    modeBehind .plain (c :: s) = modeBehind .plain (s.drop count) := by
  induction count generalizing s with
  | zero => simp [modeBehind, hc]
  | succ count ih =>
      cases s with
      | nil => simp at hcount
      | cons d s =>
          by_cases hd : d = c
          · subst hd
            rw [List.drop_succ_cons, ← ih (by simpa using hcount)]
            simp [modeBehind, hc]
          · simp [hd] at hcount

theorem length_takeWhile_lt_iff {mark : Char} {s : Text} :
    (s.takeWhile (· != mark)).length < s.length ↔ mark ∈ s := by
  induction s with
  | nil => simp
  | cons c s ih =>
      by_cases hc : c = mark
      · simp [hc]
      · simpa [hc, Ne.symm hc] using ih

/-- The scan of a pattern ends at its end if behind it no quote is open and no backslash waits for
its character. -/
theorem isComplete_iff (pattern : Text) :
    IsComplete pattern ↔ modeBehind .plain pattern = .plain := by
  induction pattern using pattern_induction with
  | nil => exact iff_of_true isComplete_nil rfl
  | cons c s ih =>
      rw [isComplete_cons_iff, ih]
      rcases quote_or_escape_or_plain c with hquote | rfl | hplain
      · have hstep : (step c s).2 = (s.takeWhile (· != c)).length + 1 := by
          rcases hquote with rfl | rfl <;> rfl
        rw [hstep, Nat.succ_le_iff, length_takeWhile_lt_iff, modeBehind, if_pos hquote,
          modeBehind_quoted]
        split <;> simp_all
      · cases s <;> simp [step, modeBehind]
      · have hle := step_le hplain s
        rw [modeBehind_run hplain hle]
        exact and_iff_right (Nat.le_trans hle (List.takeWhile_prefix _).length_le)

/-! ## The seam of two patterns -/

/-- Whether the last character of one pattern differs from the first one of another. -/
def Separate (p q : Text) : Prop := p ≠ [] → p.getLast? ≠ q.head?

instance (p q : Text) : Decidable (Separate p q) :=
  inferInstanceAs (Decidable (p ≠ [] → p.getLast? ≠ q.head?))

section Seam

variable {c : Char} {s q : Text}

theorem Separate.drop (h : Separate (c :: s) q) (count : Nat) : Separate (s.drop count) q := by
  intro hne
  have hsuffix : s.drop count <:+ c :: s := (List.drop_suffix count s).trans (List.suffix_cons c s)
  obtain ⟨front, hfront⟩ := hsuffix
  have hlast : (c :: s).getLast? = (s.drop count).getLast? := by
    rw [← hfront, List.getLast?_append, List.getLast?_eq_some_getLast hne, Option.some_or]
  rw [← hlast]
  exact h (List.cons_ne_nil c s)

theorem takeWhile_append_of_separate (h : Separate (c :: s) q) :
    (s ++ q).takeWhile (· == c) = s.takeWhile (· == c) := by
  rw [List.takeWhile_append]
  split
  · next hall =>
      have hs : s.takeWhile (· == c) = s := (List.takeWhile_prefix _).eq_of_length hall
      have hlast : (c :: s).getLast? = some c := by
        rw [List.takeWhile_eq_self_iff] at hs
        rw [List.getLast?_eq_some_getLast (List.cons_ne_nil c s)]
        rcases List.mem_cons.1 (List.getLast_mem (List.cons_ne_nil c s)) with heq | hmem
        · rw [heq]
        · rw [beq_iff_eq.1 (hs _ hmem)]
      have hq : q.takeWhile (· == c) = [] := by
        cases q with
        | nil => rfl
        | cons d q =>
            have hne := h (List.cons_ne_nil c s)
            have hd : d ≠ c := by
              rintro rfl
              exact hne hlast
            simp [hd]
      rw [hq, List.append_nil, hs]
  · rfl

theorem step_congr (hc : c ≠ '\'' ∧ c ≠ '"' ∧ c ≠ '\\') {t : Text}
    (h : s.takeWhile (· == c) = t.takeWhile (· == c)) : step c s = step c t := by
  unfold step
  rw [h]
  split <;> simp_all

theorem step_append (hcomplete : IsComplete (c :: s)) (hseparate : Separate (c :: s) q) :
    step c (s ++ q) = step c s := by
  obtain ⟨hcount, -⟩ := isComplete_cons_iff.1 hcomplete
  rcases quote_or_escape_or_plain c with hquote | rfl | hplain
  · have hstep : ∀ u, step c u = (.literal (u.takeWhile (· != c)),
        (u.takeWhile (· != c)).length + 1) := by
      rcases hquote with rfl | rfl <;> exact fun _ => rfl
    rw [hstep] at hcount
    have hinside : (s ++ q).takeWhile (· != c) = s.takeWhile (· != c) := by
      rw [List.takeWhile_append, if_neg (Nat.ne_of_lt hcount)]
    rw [hstep, hstep, hinside]
  · have htake : (s ++ q).take 1 = s.take 1 := List.take_append_of_le_length hcount
    simp only [step, htake]
  · exact step_congr hplain (takeWhile_append_of_separate hseparate)

end Seam

theorem ofText_append {p q : Text} (hp : IsComplete p) (hpq : Separate p q) :
    ofText (p ++ q) = ofText p ++ ofText q := by
  apply Text.lex_append (P := fun s => IsComplete s ∧ Separate s q)
  · intro c s hs
    obtain ⟨hcount, hrest⟩ := isComplete_cons_iff.1 hs.1
    exact ⟨step_append hs.1 hs.2, hcount, hrest, hs.2.drop _⟩
  · exact ⟨hp, hpq⟩

/-! ## Trimmed fractions -/

def Piece.IsTrimmed : Piece → Prop
  | .trimmedFraction _ => True
  | _ => False

theorem not_isTrimmed_step {c : Char} (hc : c ≠ 'F') (s : Text) : ¬ (step c s).1.IsTrimmed := by
  unfold step
  split <;> simp_all [Piece.IsTrimmed]

theorem not_isTrimmed_of_notMem {pattern : Text} (h : some 'F' ∉ exposed pattern) :
    ∀ p ∈ ofText pattern, ¬ p.IsTrimmed := by
  refine Text.forall_mem_lex (P := fun s => some 'F' ∉ exposed s) (Q := (¬ Piece.IsTrimmed ·)) ?_ h
  intro c s hs
  have hF : c ≠ 'F' := by
    rintro rfl
    exact hs List.mem_cons_self
  refine ⟨not_isTrimmed_step hF s, fun hmem => hs ?_⟩
  by_cases hf : c = 'f'
  · subst hf
    rw [exposed_run (by decide) (step_le (by decide) s)]
    exact List.mem_append_right _ hmem
  · obtain ⟨block, hblock, -, -⟩ := exposed_step hf hF s
    rw [hblock]
    exact List.mem_append_right _ hmem

end DatePattern

namespace Moment

open DatePattern (IsComplete Separate exposed)

section Writing

variable {culture : Culture} {m : Moment}

/-- Only a trimmed fraction looks at what is written before it. -/
theorem write_append {p : DatePattern.Piece} (hp : ¬ p.IsTrimmed) (front written : Text) :
    m.write culture (front ++ written) p = (m.write culture written p).map (front ++ ·) := by
  cases p with
  | fraction run =>
      simp only [write]
      split
      · rfl
      · rw [List.append_assoc]
        rfl
  | trimmedFraction run => exact (hp trivial).elim
  | _ => simp only [write, List.append_assoc, Except.map]

theorem writeAll_append_left {ps : List DatePattern.Piece} (hps : ∀ p ∈ ps, ¬ p.IsTrimmed)
    (front written : Text) :
    m.writeAll culture (front ++ written) ps =
      (m.writeAll culture written ps).map (front ++ ·) := by
  induction ps generalizing written with
  | nil => rfl
  | cons p ps ih =>
      rw [List.forall_mem_cons] at hps
      rw [writeAll, writeAll, write_append hps.1]
      cases m.write culture written p with
      | ok next => exact ih hps.2 next
      | error fault => rfl

end Writing

/-- A pattern that is made of two writes what the one writes and behind it what the other writes,
and it fails exactly when one of them does. -/
theorem custom_append (culture : Culture) (m : Moment) {p q : Text} (hp : IsComplete p)
    (hpq : Separate p q) (hq : some 'F' ∉ exposed q) :
    custom culture m (p ++ q) =
      (custom culture m p).bind (fun s => (custom culture m q).map (s ++ ·)) ∧
    ((∃ fault, custom culture m (p ++ q) = .error fault) ↔
      (∃ fault, custom culture m p = .error fault) ∨
        ∃ fault, custom culture m q = .error fault) := by
  have hparts : custom culture m (p ++ q) =
      (custom culture m p).bind fun s => (custom culture m q).map (s ++ ·) := by
    have hnot := DatePattern.not_isTrimmed_of_notMem hq
    have hwrite : ∀ front, m.writeAll culture front (DatePattern.ofText q) =
        (custom culture m q).map (front ++ ·) := by
      intro front
      rw [custom, ← writeAll_append_left hnot, List.append_nil]
    rw [custom, DatePattern.ofText_append hp hpq, writeAll_append]
    simp only [hwrite]
    rfl
  refine ⟨hparts, ?_⟩
  rw [hparts]
  cases custom culture m p with
  | error fault => simp [Except.bind]
  | ok s => cases custom culture m q <;> simp [Except.bind, Except.map]

/-- At a full second the trimmed fraction takes the point away in its own pattern; a quoted letter
behind it is no fraction. -/
theorem custom_append_fullSecond :
    let m : Moment := ⟨⟨2024, 1, 28, by decide, by decide⟩, ⟨17, 5, 9, 0⟩, some ⟨-90, by decide⟩⟩
    let p : Text := "hhh:mm:ss\\..FFF"
    let q : Text := "'Full 'tt zzz"
    IsComplete p ∧ Separate p q ∧ some 'F' ∉ exposed q ∧
      custom .invariant m p = .ok "055:05:09." ∧
      custom .invariant m (p ++ q) = .ok "055:05:09.Full PM -01:30" ∧
      ∃ fault, custom .invariant m (p ++ "ffffffff") = .error fault := by
  intro m p q
  have hp : IsComplete p := (DatePattern.isComplete_iff p).2 rfl
  have hpq : Separate p q := by decide
  have hq : some 'F' ∉ exposed q := by decide
  have hwritten : custom .invariant m p = .ok "055:05:09." := by decide
  refine ⟨hp, hpq, hq, hwritten, ?_, ?_⟩
  · rw [(custom_append .invariant m hp hpq hq).1, hwritten]
    decide
  · rw [(custom_append .invariant m hp (q := "ffffffff") (by decide) (by decide)).2]
    exact .inr ⟨.tooManyFractionDigits, by decide⟩

end Moment

end Phrasebook
