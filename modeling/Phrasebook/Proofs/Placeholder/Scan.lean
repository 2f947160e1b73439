import Mathlib.Data.List.DropRight
import Phrasebook.Placeholder.Scan

/-!
# Scanning a template

The scan reads one segment after another. Its graph is the relation `Scan`: a literal character is
passed over where no placeholder starts, and a placeholder is taken whole. What is said about the
segments of a template is proved by induction on that relation.
-/

namespace Phrasebook

namespace Text

theorem cut?_eq_some_iff {c : Char} {s before after : Text} :
    cut? c s = some (before, after) ↔ c ∉ before ∧ s = before ++ c :: after := by
  induction s generalizing before with
  | nil => simp [cut?]
  | cons d s ih =>
      by_cases hd : d = c
      · subst hd
        cases before with
        | nil => simp [cut?, eq_comm]
        | cons e before =>
            simp only [cut?, if_pos, List.cons_append, List.cons.injEq, List.mem_cons]
            grind
      · simp only [cut?, if_neg hd, Option.map_eq_some_iff, Prod.exists, Prod.mk.injEq]
        constructor
        · rintro ⟨front, rest, hcut, rfl, rfl⟩
          obtain ⟨hfront, rfl⟩ := ih.1 hcut
          exact ⟨by simp [hfront, Ne.symm hd], rfl⟩
        · rintro ⟨hbefore, hs⟩
          cases before with
          | nil => simp at hs; exact (hd hs.1).elim
          | cons e front =>
              simp only [List.cons_append, List.cons.injEq] at hs
              obtain ⟨rfl, rfl⟩ := hs
              exact ⟨front, after, ih.2 ⟨fun h => hbefore (by simp [h]), rfl⟩, rfl, rfl⟩

/-- The first `c` cuts a text in one way only. -/
theorem append_cons_inj {c : Char} {s t rest tail : Text} (hs : c ∉ s) (ht : c ∉ t)
    (h : s ++ c :: rest = t ++ c :: tail) : s = t ∧ rest = tail := by
  have hcut : cut? c (s ++ c :: rest) = some (s, rest) := cut?_eq_some_iff.2 ⟨hs, rfl⟩
  rw [cut?_eq_some_iff.2 ⟨ht, h⟩] at hcut
  simpa [eq_comm] using hcut

end Text

namespace Delimiters.Pattern

variable {p : Pattern}

/-- Whether a text can stand between the delimiters of a placeholder. -/
def IsBody (p : Pattern) (body : Text) : Prop := body ≠ [] ∧ p.closing ∉ body

/-- A placeholder as it stands in a template. -/
def token (p : Pattern) (body : Text) : Text := p.opening :: (body ++ [p.closing])

/-- Whether a placeholder stands at the front of a text. -/
def Starts (p : Pattern) (s : Text) : Prop :=
  ∃ body rest, p.IsBody body ∧ s = p.token body ++ rest

theorem source_placeholder (p : Pattern) (body : Text) :
    (Segment.placeholder body).source p = p.token body := rfl

theorem token_append (p : Pattern) (body rest : Text) :
    p.token body ++ rest = p.opening :: (body ++ p.closing :: rest) := by
  simp [token]

/-- The first closing delimiter ends a placeholder, so a text starts with at most one. -/
theorem token_append_inj {body other rest tail : Text} (hbody : p.IsBody body)
    (hother : p.IsBody other) (h : p.token body ++ rest = p.token other ++ tail) :
    body = other ∧ rest = tail := by
  rw [token_append, token_append, List.cons.injEq] at h
  exact Text.append_cons_inj hbody.2 hother.2 h.2

theorem body?_eq_some_iff {s body : Text} :
    Segment.body? p s = some body ↔ p.IsBody body ∧ ∃ rest, s = body ++ p.closing :: rest := by
  unfold Segment.body?
  constructor
  · intro h
    split at h
    · next c body rest hcut =>
        obtain ⟨hclosing, hs⟩ := Text.cut?_eq_some_iff.1 hcut
        cases h
        exact ⟨⟨by simp, hclosing⟩, rest, hs⟩
    · cases h
  · rintro ⟨⟨hne, hclosing⟩, rest, hs⟩
    obtain ⟨c, body, rfl⟩ := List.exists_cons_of_ne_nil hne
    rw [Text.cut?_eq_some_iff.2 ⟨hclosing, hs⟩]

theorem step_eq_literal {c : Char} {s : Text} (h : ¬ p.Starts (c :: s)) :
    Segment.step p c s = (.literal c, 0) := by
  unfold Segment.step
  split
  · next hc =>
      cases hbody : Segment.body? p s with
      | none => rfl
      | some body =>
          obtain ⟨hb, rest, rfl⟩ := body?_eq_some_iff.1 hbody
          exact (h ⟨body, rest, hb, by rw [hc, token_append]⟩).elim
  · rfl

theorem segments_cons {c : Char} {s : Text} (h : ¬ p.Starts (c :: s)) :
    segments p (c :: s) = .literal c :: segments p s := by
  simp [segments, Text.lex, step_eq_literal h]

theorem segments_token_append {body : Text} (hbody : p.IsBody body) (s : Text) :
    segments p (p.token body ++ s) = .placeholder body :: segments p s := by
  have hfound : Segment.body? p (body ++ p.closing :: s) = some body :=
    body?_eq_some_iff.2 ⟨hbody, s, rfl⟩
  have hstep : Segment.step p p.opening (body ++ p.closing :: s) =
      (.placeholder body, body.length + 1) := by
    simp [Segment.step, hfound]
  have hdrop : (body ++ p.closing :: s).drop (body.length + 1) = s := by simp
  rw [segments, token_append, Text.lex, Text.lexFrom_zero, hstep, Text.lexFrom_eq_lex_drop, hdrop,
    segments]

/-- The segments that a scan reads from a text. -/
inductive Scan (p : Pattern) : Text → List Segment → Prop
  | nil : Scan p [] []
  | literal {c : Char} {s : Text} {segs : List Segment} :
      ¬ p.Starts (c :: s) → Scan p s segs → Scan p (c :: s) (.literal c :: segs)
  | placeholder {body s : Text} {segs : List Segment} :
      p.IsBody body → Scan p s segs → Scan p (p.token body ++ s) (.placeholder body :: segs)

theorem scan_segments (p : Pattern) (s : Text) : p.Scan s (segments p s) := by
  induction hn : s.length using Nat.strongRecOn generalizing s with
  | ind n ih =>
      by_cases hstarts : p.Starts s
      · obtain ⟨body, rest, hbody, rfl⟩ := hstarts
        rw [segments_token_append hbody]
        refine .placeholder hbody (ih rest.length ?_ rest rfl)
        simp [token] at hn
        omega
      · cases s with
        | nil => exact .nil
        | cons c s =>
            rw [segments_cons hstarts]
            exact .literal hstarts (ih s.length (by simp at hn; omega) s rfl)

/-! ## Texts that no placeholder leaves -/

/-- Whether every opening delimiter of a text has a closing one behind it. -/
def Closed (p : Pattern) (s : Text) : Prop :=
  ∀ before after, s = before ++ p.opening :: after → p.closing ∈ after

theorem Closed.of_append {s t : Text} (h : p.Closed (s ++ t)) : p.Closed t := by
  intro before after ht
  exact h (s ++ before) after (by rw [ht, List.append_assoc])

theorem closed_of_notMem_rtakeWhile (hne : p.opening ≠ p.closing) {s : Text}
    (h : p.opening ∉ s.rtakeWhile (· ≠ p.closing)) : p.Closed s := by
  rintro before after rfl
  by_contra hclosing
  apply h
  have hall : ∀ c ∈ (p.opening :: after).reverse, decide (c ≠ p.closing) = true := by
    intro c hc
    rcases List.mem_cons.1 (List.mem_reverse.1 hc) with rfl | hc
    · simpa using hne
    · exact decide_eq_true fun (heq : c = p.closing) => hclosing (heq ▸ hc)
  rw [List.rtakeWhile, List.reverse_append, List.takeWhile_append_of_pos hall]
  simp

/-- What starts in a closed text ends in it. -/
theorem Closed.starts_of_append {c : Char} {s t : Text} (h : p.Closed (c :: s))
    (hstarts : p.Starts (c :: s ++ t)) : p.Starts (c :: s) := by
  obtain ⟨body, rest, hbody, heq⟩ := hstarts
  rw [token_append, List.cons_append, List.cons.injEq] at heq
  obtain ⟨rfl, heq⟩ := heq
  obtain ⟨front, after, rfl, hfront⟩ := List.eq_append_cons_of_mem (h [] s rfl)
  rw [List.append_assoc, List.cons_append] at heq
  obtain ⟨rfl, -⟩ := Text.append_cons_inj hfront hbody.2 heq
  exact ⟨front, after, hbody, (token_append ..).symm⟩

/-- The segments of a closed text are those of any text that it begins. -/
theorem segments_append {s : Text} (h : p.Closed s) (t : Text) :
    segments p (s ++ t) = segments p s ++ segments p t := by
  have hscan := scan_segments p s
  generalize segments p s = segs at hscan ⊢
  induction hscan with
  | nil => rfl
  | @literal c s segs hstarts _ ih =>
      have hstarts' : ¬ p.Starts (c :: (s ++ t)) := fun hs => hstarts (h.starts_of_append hs)
      rw [List.cons_append, segments_cons hstarts', ih (h.of_append (s := [c])),
        List.cons_append]
  | @placeholder body s segs hbody _ ih =>
      rw [List.append_assoc, segments_token_append hbody, ih h.of_append, List.cons_append]

end Delimiters.Pattern

end Phrasebook
