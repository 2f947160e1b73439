import Phrasebook.Calendar.Format

/-!
# Runs in date patterns

A custom pattern fails only on a fraction of too many digits, so on a run of more than seven `f` or
`F` outside of quotes and escapes.
-/

namespace Phrasebook

namespace Text

/-! ## Runs -/

section Run

variable {α : Type} {a : α} {k : Nat}

theorem replicate_infix_append_of_notMem (hk : 0 < k) {block : List α} (ha : a ∉ block)
    (rest : List α) :
    List.replicate k a <:+: block ++ rest ↔ List.replicate k a <:+: rest := by
  induction block with
  | nil => rfl
  | cons b block ih =>
      have hb : ¬ List.replicate k a <+: b :: (block ++ rest) := by
        obtain ⟨k, rfl⟩ := Nat.exists_eq_add_one_of_ne_zero (Nat.ne_of_gt hk)
        rw [List.replicate_succ, List.cons_prefix_cons]
        rintro ⟨rfl, -⟩
        exact ha List.mem_cons_self
      rw [List.cons_append, List.infix_cons_iff, or_iff_right hb]
      exact ih fun hmem => ha (List.mem_cons_of_mem b hmem)

theorem replicate_prefix_append_iff {count : Nat} {rest : List α} (hrest : rest.head? ≠ some a) :
    List.replicate k a <+: List.replicate count a ++ rest ↔ k ≤ count := by
  induction k generalizing count with
  | zero => simp
  | succ k ih =>
      cases count with
      | zero =>
          refine iff_of_false ?_ (by omega)
          rintro ⟨t, ht⟩
          refine hrest ?_
          rw [List.replicate_zero, List.nil_append] at ht
          rw [← ht]
          rfl
      | succ count =>
          rw [List.replicate_succ, List.replicate_succ, List.cons_append, List.cons_prefix_cons, ih]
          simp

theorem replicate_infix_append_iff {count : Nat} {rest : List α} (hrest : rest.head? ≠ some a) :
    List.replicate k a <:+: List.replicate count a ++ rest ↔
      k ≤ count ∨ List.replicate k a <:+: rest := by
  induction count with
  | zero =>
      constructor
      · exact .inr
      · rintro (hk | hinfix)
        · obtain rfl : k = 0 := Nat.le_zero.1 hk
          exact List.nil_infix
        · exact hinfix
  | succ count ih =>
      have hprefix : List.replicate k a <+: List.replicate (count + 1) a ++ rest ↔ k ≤ count + 1 :=
        replicate_prefix_append_iff hrest
      rw [List.replicate_succ, List.cons_append] at hprefix ⊢
      rw [List.infix_cons_iff, hprefix, ih, ← or_assoc,
        or_iff_left_of_imp (fun hk : k ≤ count => Nat.le_succ_of_le hk)]

end Run

end Text

namespace DatePattern

/-! ## What stands outside of quotes and escapes -/

/-- How the next character of a pattern is taken. -/
inductive Mode
  | plain
  | quoted (mark : Char)
  | escaped

/-- The characters of a pattern that stand for themselves or for a field; quoted and escaped ones,
quotes and escapes are left blank. -/
def exposedFrom : Mode → Text → List (Option Char)
  | _, [] => []
  | .plain, c :: s =>
    if c = '\'' ∨ c = '"' then none :: exposedFrom (.quoted c) s
    else if c = '\\' then none :: exposedFrom .escaped s
    else some c :: exposedFrom .plain s
  | .quoted mark, c :: s =>
    none :: exposedFrom (if c = mark then .plain else .quoted mark) s
  | .escaped, _ :: s => none :: exposedFrom .plain s

def exposed (pattern : Text) : List (Option Char) := exposedFrom .plain pattern

/-- Whether a pattern has a run of more than seven `f` or of more than seven `F`. -/
def HasLongFraction (pattern : Text) : Prop :=
  ∃ c, (c = 'f' ∨ c = 'F') ∧ List.replicate 8 (some c) <:+: exposed pattern

/-- Whether a piece is a fraction of too many digits. -/
def Piece.IsLong : Piece → Prop
  | .fraction run => Moment.maxFractionDigits < run
  | .trimmedFraction run => Moment.maxFractionDigits < run
  | _ => False

instance (p : Piece) : Decidable p.IsLong := by
  cases p <;> unfold Piece.IsLong <;> infer_instance

/-! ## One step of a scan -/

theorem ofText_cons (c : Char) (s : Text) :
    ofText (c :: s) = (step c s).1 :: ofText (s.drop (step c s).2) := by
  rw [ofText, Text.lex, Text.lexFrom_zero, Text.lexFrom_eq_lex_drop]
  rfl

theorem exposed_cons {c : Char} (hc : c ≠ '\'' ∧ c ≠ '"' ∧ c ≠ '\\') (s : Text) :
    exposed (c :: s) = some c :: exposed s := by
  simp [exposed, exposedFrom, hc]

theorem exposed_run {c : Char} (hc : c ≠ '\'' ∧ c ≠ '"' ∧ c ≠ '\\') {count : Nat} {s : Text}
    (hcount : count ≤ (s.takeWhile (· == c)).length) :
    exposed (c :: s) = List.replicate (count + 1) (some c) ++ exposed (s.drop count) := by
  induction count generalizing s with
  | zero => exact exposed_cons hc s
  | succ count ih =>
      cases s with
      | nil => simp at hcount
      | cons d s =>
          by_cases hd : d = c
          · subst hd
            have hrest := ih (s := s) (by simpa using hcount)
            rw [exposed_cons hc, hrest, List.replicate_succ (n := count + 1)]
            rfl
          · simp [hd] at hcount

theorem exposedFrom_quoted (mark : Char) (s : Text) :
    ∃ count, exposedFrom (.quoted mark) s =
      List.replicate count none ++ exposed (s.drop ((s.takeWhile (· != mark)).length + 1)) := by
  induction s with
  | nil => exact ⟨0, rfl⟩
  | cons c s ih =>
      by_cases hc : c = mark
      · exact ⟨1, by simp [exposedFrom, exposed, hc]⟩
      · obtain ⟨count, hcount⟩ := ih
        refine ⟨count + 1, ?_⟩
        simp [exposedFrom, hc, hcount, List.replicate_succ]

theorem head?_exposed_ne {c : Char} {s : Text} (hs : s.head? ≠ some c) :
    (exposed s).head? ≠ some (some c) := by
  cases s with
  | nil => simp [exposed, exposedFrom]
  | cons d s =>
      have hd : d ≠ c := by simpa using hs
      simp only [exposed, exposedFrom]
      split
      · simp
      · split
        · simp
        · simpa using hd

theorem head?_drop_takeWhile_ne (c : Char) (s : Text) :
    (s.drop (s.takeWhile (· == c)).length).head? ≠ some c := by
  induction s with
  | nil => simp
  | cons d s ih =>
      by_cases hd : d = c
      · simpa [hd] using ih
      · simp [hd]

/-- A run of fraction letters is one piece, whose digits are as many as the letters. -/
theorem step_fraction {c : Char} (hc : c = 'f' ∨ c = 'F') (s : Text) :
    (step c s).2 = (s.takeWhile (· == c)).length ∧
      ((step c s).1.IsLong ↔ 8 ≤ (s.takeWhile (· == c)).length + 1) := by
  rcases hc with rfl | rfl
  · exact ⟨rfl, Iff.rfl⟩
  · exact ⟨rfl, Iff.rfl⟩

theorem not_isLong_step {c : Char} (hf : c ≠ 'f') (hF : c ≠ 'F') (s : Text) :
    ¬ (step c s).1.IsLong := by
  unfold step
  split <;> simp_all [Piece.IsLong]

/-- Outside of quotes and escapes, a step passes over letters like the first at most. -/
theorem step_le {c : Char} (hc : c ≠ '\'' ∧ c ≠ '"' ∧ c ≠ '\\') (s : Text) :
    (step c s).2 ≤ (s.takeWhile (· == c)).length := by
  unfold step
  split <;> simp_all [Nat.min_le_left]

/-- A character opens a quote, escapes the next one, or does neither. -/
theorem quote_or_escape_or_plain (c : Char) :
    (c = '\'' ∨ c = '"') ∨ c = '\\' ∨ c ≠ '\'' ∧ c ≠ '"' ∧ c ≠ '\\' := by
  by_cases hquote : c = '\'' ∨ c = '"'
  · exact .inl hquote
  by_cases hescape : c = '\\'
  · exact .inr (.inl hescape)
  · rw [not_or] at hquote
    exact .inr (.inr ⟨hquote.1, hquote.2, hescape⟩)

/-- A step at another character passes over characters none of which is exposed as a fraction
letter. -/
theorem exposed_step {c : Char} (hf : c ≠ 'f') (hF : c ≠ 'F') (s : Text) :
    ∃ block, exposed (c :: s) = block ++ exposed (s.drop (step c s).2) ∧
      some 'f' ∉ block ∧ some 'F' ∉ block := by
  rcases quote_or_escape_or_plain c with hquote | rfl | hplain
  · obtain ⟨count, hcount⟩ := exposedFrom_quoted c s
    have hstep : (step c s).2 = (s.takeWhile (· != c)).length + 1 := by
      rcases hquote with rfl | rfl <;> rfl
    refine ⟨none :: List.replicate count none, ?_, by simp, by simp⟩
    rw [exposed, exposedFrom, if_pos hquote, hcount, hstep, List.cons_append]
  · cases s with
    | nil => exact ⟨[none], rfl, by simp, by simp⟩
    | cons d s => exact ⟨[none, none], rfl, by simp, by simp⟩
  · refine ⟨_, exposed_run hplain (step_le hplain s), ?_, ?_⟩
    · simpa using Ne.symm hf
    · simpa using Ne.symm hF

/-! ## Long runs -/

/-- What holds of the empty pattern, and of a pattern whenever it holds behind its first step, holds
of every pattern. -/
theorem pattern_induction {motive : Text → Prop} (nil : motive [])
    (cons : ∀ c s, motive (s.drop (step c s).2) → motive (c :: s)) (pattern : Text) :
    motive pattern := by
  induction hlength : pattern.length using Nat.strongRecOn generalizing pattern with
  | ind n ih =>
      cases pattern with
      | nil => exact nil
      | cons c s =>
          refine cons c s (ih _ ?_ _ rfl)
          rw [← hlength, List.length_drop, List.length_cons]
          omega

/-- Where a run of a fraction letter is: it is the first piece, or behind it. -/
theorem long_run_iff {c d : Char} (hd : d = 'f' ∨ d = 'F') (s : Text) :
    List.replicate 8 (some d) <:+: exposed (c :: s) ↔
      (d = c ∧ (step c s).1.IsLong) ∨
        List.replicate 8 (some d) <:+: exposed (s.drop (step c s).2) := by
  by_cases hc : c = 'f' ∨ c = 'F'
  · obtain ⟨hcount, hlong⟩ := step_fraction hc s
    have hplain : c ≠ '\'' ∧ c ≠ '"' ∧ c ≠ '\\' := by
      rcases hc with rfl | rfl <;> decide
    have hrest : (exposed (s.drop (step c s).2)).head? ≠ some (some c) := by
      rw [hcount]
      exact head?_exposed_ne (head?_drop_takeWhile_ne c s)
    have hexposed := exposed_run hplain (s := s) (Nat.le_of_eq hcount)
    rw [hexposed, hlong, ← hcount]
    by_cases hdc : d = c
    · subst hdc
      rw [Text.replicate_infix_append_iff hrest]
      simp
    · rw [Text.replicate_infix_append_of_notMem (by decide) (by simpa using hdc)]
      simp [hdc]
  · obtain ⟨hf, hF⟩ := not_or.1 hc
    obtain ⟨block, hblock, hblockf, hblockF⟩ := exposed_step hf hF s
    have hnot : some d ∉ block := by
      rcases hd with rfl | rfl
      · exact hblockf
      · exact hblockF
    rw [hblock, Text.replicate_infix_append_of_notMem (by decide) hnot]
    simp [not_isLong_step hf hF]

theorem hasLongFraction_iff (pattern : Text) :
    HasLongFraction pattern ↔ ∃ p ∈ ofText pattern, p.IsLong := by
  induction pattern using pattern_induction with
  | nil =>
      refine iff_of_false ?_ (by simp [ofText, Text.lex])
      rintro ⟨c, -, hinfix⟩
      have hle := hinfix.length_le
      simp [exposed, exposedFrom] at hle
  | cons c s ih =>
      have hletter : (step c s).1.IsLong → c = 'f' ∨ c = 'F' := by
        intro hlong
        by_cases hc : c = 'f' ∨ c = 'F'
        · exact hc
        · obtain ⟨hf, hF⟩ := not_or.1 hc
          exact (not_isLong_step hf hF s hlong).elim
      rw [ofText_cons]
      simp only [List.mem_cons, exists_eq_or_imp, ← ih]
      constructor
      · rintro ⟨d, hd, hrun⟩
        rcases (long_run_iff hd s).1 hrun with ⟨rfl, hlong⟩ | hrest
        · exact .inl hlong
        · exact .inr ⟨d, hd, hrest⟩
      · rintro (hlong | ⟨d, hd, hrest⟩)
        · exact ⟨c, hletter hlong, (long_run_iff (hletter hlong) s).2 (.inl ⟨rfl, hlong⟩)⟩
        · exact ⟨d, hd, (long_run_iff hd s).2 (.inr hrest)⟩

instance (pattern : Text) : Decidable (HasLongFraction pattern) :=
  decidable_of_iff _ (hasLongFraction_iff pattern).symm

example : HasLongFraction "ss.ffffffff" ∧ ¬ HasLongFraction "ss'.ffffffff'fffffff" := by decide

end DatePattern

namespace Moment

open DatePattern (HasLongFraction)

theorem write_eq_error_iff {culture : Culture} {m : Moment} {written : Text}
    {p : DatePattern.Piece} {fault : FormatFault} :
    m.write culture written p = .error fault ↔ fault = .tooManyFractionDigits ∧ p.IsLong := by
  cases p with
  | fraction run =>
      simp only [write, DatePattern.Piece.IsLong]
      split <;> simp_all [eq_comm]
  | trimmedFraction run =>
      simp only [write, DatePattern.Piece.IsLong]
      split
      · simp_all [eq_comm]
      · split <;> simp_all
  | _ => simp [write, DatePattern.Piece.IsLong]

theorem writeAll_append {culture : Culture} {m : Moment} (written : Text)
    (ps qs : List DatePattern.Piece) :
    m.writeAll culture written (ps ++ qs) =
      (m.writeAll culture written ps).bind (m.writeAll culture · qs) := by
  induction ps generalizing written with
  | nil => rfl
  | cons p ps ih =>
      rw [List.cons_append, writeAll, writeAll]
      cases m.write culture written p with
      | ok next => exact ih next
      | error fault => rfl

theorem writeAll_eq_error_iff {culture : Culture} {m : Moment} {written : Text}
    {ps : List DatePattern.Piece} {fault : FormatFault} :
    m.writeAll culture written ps = .error fault ↔
      fault = .tooManyFractionDigits ∧ ∃ p ∈ ps, p.IsLong := by
  induction ps generalizing written with
  | nil => simp [writeAll]
  | cons p ps ih =>
      have hwrite : ∀ fault, m.write culture written p = .error fault ↔ _ :=
        fun fault => write_eq_error_iff
      simp only [writeAll, List.mem_cons, exists_eq_or_imp]
      cases h : m.write culture written p with
      | ok next =>
          have hshort : ¬ p.IsLong := by
            intro hlong
            have herror := (hwrite _).2 ⟨rfl, hlong⟩
            rw [h] at herror
            cases herror
          rw [ih, or_iff_right hshort]
      | error other =>
          obtain ⟨rfl, hlong⟩ := (hwrite other).1 h
          simp [hlong, eq_comm]

theorem custom_eq_error_iff {culture : Culture} {m : Moment} {pattern : Text}
    {fault : FormatFault} :
    custom culture m pattern = .error fault ↔
      fault = .tooManyFractionDigits ∧ HasLongFraction pattern := by
  rw [custom, writeAll_eq_error_iff, DatePattern.hasLongFraction_iff]

end Moment

end Phrasebook
