import Phrasebook.Proofs.Placeholder.Scan

/-!
# Cutting a template at its placeholders

A cut writes a template as `l₀ t₁ l₁ … tₙ lₙ` with placeholders `tᵢ` and literal texts `lᵢ`. It is
leftmost if no placeholder starts in a literal text, so that none could have been found earlier. A
template has exactly one leftmost cut, and it is the one that the scan finds.
-/

namespace Phrasebook

/-- Literal texts, each with the body of the placeholder behind it, and the literal text behind the
last placeholder. -/
structure Cut where
  parts : List (Text × Text)
  last : Text

namespace Cut

/-- The text of a cut with `f body` in the place of every placeholder. -/
def assemble (f : Text → Text) (cut : Cut) : Text :=
  cut.parts.flatMap (fun part => part.1 ++ f part.2) ++ cut.last

/-- The bodies of the placeholders. -/
def bodies (cut : Cut) : List Text := cut.parts.map Prod.snd

/-- The literal texts, that behind the last placeholder included. -/
def literals (cut : Cut) : List Text := cut.parts.map Prod.fst ++ [cut.last]

/-- The cut with one more literal character in front. -/
def cons (c : Char) : Cut → Cut
  | ⟨[], last⟩ => ⟨[], c :: last⟩
  | ⟨(literal, body) :: parts, last⟩ => ⟨(c :: literal, body) :: parts, last⟩

/-- The cut with one more placeholder in front. -/
def consBody (body : Text) (cut : Cut) : Cut := ⟨([], body) :: cut.parts, cut.last⟩

@[simp] theorem assemble_cons (f : Text → Text) (c : Char) (cut : Cut) :
    (cut.cons c).assemble f = c :: cut.assemble f := by
  obtain ⟨_ | ⟨_, _⟩, _⟩ := cut <;> simp [cons, assemble]

@[simp] theorem assemble_consBody (f : Text → Text) (body : Text) (cut : Cut) :
    (cut.consBody body).assemble f = f body ++ cut.assemble f := by
  simp [consBody, assemble]

@[simp] theorem bodies_cons (c : Char) (cut : Cut) : (cut.cons c).bodies = cut.bodies := by
  obtain ⟨_ | ⟨_, _⟩, _⟩ := cut <;> simp [cons, bodies]

@[simp] theorem bodies_consBody (body : Text) (cut : Cut) :
    (cut.consBody body).bodies = body :: cut.bodies := rfl

theorem assemble_congr {f g : Text → Text} {cut : Cut} (h : ∀ body ∈ cut.bodies, f body = g body) :
    cut.assemble f = cut.assemble g := by
  obtain ⟨parts, last⟩ := cut
  simp only [bodies, List.mem_map, Prod.exists, exists_eq_right, forall_exists_index] at h
  simp only [assemble, List.append_cancel_right_eq]
  apply List.flatMap_congr
  rintro ⟨literal, body⟩ hpart
  simp only [h body literal hpart]

end Cut

namespace Delimiters.Pattern

variable {p : Pattern}

/-- Whether a cut of a text is leftmost: its placeholders have bodies, and no placeholder starts at
a character of its literal texts. -/
inductive Leftmost (p : Pattern) : Text → Cut → Prop
  | last {literal : Text} :
      (∀ k < literal.length, ¬ p.Starts (literal.drop k)) → Leftmost p literal ⟨[], literal⟩
  | part (literal : Text) {body rest : Text} {cut : Cut} :
      p.IsBody body →
      (∀ k < literal.length, ¬ p.Starts ((literal ++ (p.token body ++ rest)).drop k)) →
      Leftmost p rest cut →
      Leftmost p (literal ++ (p.token body ++ rest)) ⟨(literal, body) :: cut.parts, cut.last⟩

namespace Leftmost

variable {s : Text} {cut : Cut}

theorem assemble_token (h : p.Leftmost s cut) : cut.assemble p.token = s := by
  induction h with
  | last => simp [Cut.assemble]
  | part _ _ _ _ ih => simpa [Cut.assemble] using ih

theorem isBody (h : p.Leftmost s cut) : ∀ body ∈ cut.bodies, p.IsBody body := by
  induction h with
  | last => simp [Cut.bodies]
  | part _ hbody _ _ ih =>
      intro other hother
      rcases List.mem_cons.1 hother with rfl | hother
      · exact hbody
      · exact ih other hother

theorem not_infix_literal (h : p.Leftmost s cut) :
    ∀ literal ∈ cut.literals, ∀ body, p.IsBody body → ¬ p.token body <:+: literal := by
  have hfree : ∀ literal tail : Text,
      (∀ k < literal.length, ¬ p.Starts ((literal ++ tail).drop k)) →
      ∀ body, p.IsBody body → ¬ p.token body <:+: literal := by
    rintro _ tail hlit body hbody ⟨before, after, rfl⟩
    apply hlit before.length (by simp [token])
    refine ⟨body, after ++ tail, hbody, ?_⟩
    rw [List.append_assoc, List.append_assoc, List.drop_left]
  induction h with
  | last hlast =>
      intro other hother
      obtain rfl := List.mem_singleton.1 hother
      exact hfree other [] (by simpa using hlast)
  | part _ _ hlit _ ih =>
      intro other hother
      rcases List.mem_cons.1 hother with rfl | hother
      · exact hfree _ _ hlit
      · exact ih other hother

theorem cons {c : Char} (hc : ¬ p.Starts (c :: s)) (h : p.Leftmost s cut) :
    p.Leftmost (c :: s) (cut.cons c) := by
  cases h with
  | last hlast =>
      refine .last fun k hk => ?_
      cases k with
      | zero => exact hc
      | succ k => exact hlast k (by simpa using hk)
  | part literal hbody hlit hrest =>
      refine .part (c :: literal) hbody (fun k hk => ?_) hrest
      cases k with
      | zero => exact hc
      | succ k => exact hlit k (by simpa using hk)

theorem consBody {body : Text} (hbody : p.IsBody body) (h : p.Leftmost s cut) :
    p.Leftmost (p.token body ++ s) (cut.consBody body) :=
  .part [] hbody (by simp) h

/-- A placeholder that stands behind a literal text does not start in another literal text. -/
theorem length_le {literal other body rest s : Text} (hbody : p.IsBody body)
    (hs : s = literal ++ (p.token body ++ rest))
    (hother : ∀ k < other.length, ¬ p.Starts (s.drop k)) : other.length ≤ literal.length := by
  by_contra! hlt
  apply hother literal.length hlt
  rw [hs, List.drop_left]
  exact ⟨body, rest, hbody, rfl⟩

/-- A text has at most one leftmost cut. -/
theorem unique {other : Cut} (h : p.Leftmost s cut) (hother : p.Leftmost s other) :
    cut = other := by
  induction h generalizing other with
  | @last literal hlast =>
      generalize ht : literal = t at hother
      cases hother with
      | last => rfl
      | part front hbody _ _ =>
          have hle := length_le hbody ht hlast
          have hlen := congrArg List.length ht
          simp [token] at hlen
          omega
  | @part literal body rest cut hbody hlit _ ih =>
      generalize ht : literal ++ (p.token body ++ rest) = t at hother
      cases hother with
      | last hlast =>
          have hle := length_le hbody ht.symm hlast
          have hlen := congrArg List.length ht
          simp [token] at hlen
          omega
      | part front hbody' hfront hrest' =>
          have hle := length_le hbody ht.symm hfront
          have hge := length_le hbody' rfl (ht ▸ hlit)
          obtain ⟨rfl, htail⟩ := List.append_inj ht (by omega)
          obtain ⟨rfl, rfl⟩ := token_append_inj hbody hbody' htail
          rw [ih hrest']

end Leftmost

end Delimiters.Pattern

/-- The cut that segments describe. -/
def Cut.ofSegments : List Segment → Cut
  | [] => ⟨[], []⟩
  | .literal c :: segs => (ofSegments segs).cons c
  | .placeholder body :: segs => (ofSegments segs).consBody body

namespace Delimiters.Pattern

variable {p : Pattern}

/-- The scan finds the leftmost cut. -/
theorem leftmost_ofSegments (p : Pattern) (s : Text) :
    p.Leftmost s (Cut.ofSegments (segments p s)) := by
  have hscan := scan_segments p s
  generalize segments p s = segs at hscan ⊢
  induction hscan with
  | nil => exact .last (by simp)
  | literal hstarts _ ih => exact ih.cons hstarts
  | placeholder hbody _ ih => exact ih.consBody hbody

end Delimiters.Pattern

end Phrasebook
