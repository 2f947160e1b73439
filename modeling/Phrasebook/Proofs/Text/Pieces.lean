import Mathlib
import Phrasebook.Text.Blank

/-!
# Splitting, joining and trimming

Joining undoes splitting and splitting undoes joining, as long as no piece holds a separator. Both
keep the count of characters, and trimming a joined text only touches its last piece.
-/

namespace Phrasebook.Text

section Split

variable {p : Char → Bool}

theorem splitBy_of_forall {s : Text} (hs : ∀ c ∈ s, p c = false) : splitBy p s = [s] := by
  induction s with
  | nil => rfl
  | cons c s ih =>
      have hc : p c = false := hs c List.mem_cons_self
      have hrest : splitBy p s = [s] := ih fun d hd => hs d (List.mem_cons_of_mem c hd)
      simp [splitBy, hc, hrest]

theorem splitBy_append_cons {piece s : Text} {c : Char} (hpiece : ∀ d ∈ piece, p d = false)
    (hc : p c = true) : splitBy p (piece ++ c :: s) = piece :: splitBy p s := by
  induction piece with
  | nil => simp [splitBy, hc]
  | cons d piece ih =>
      have hd : p d = false := hpiece d List.mem_cons_self
      have hrest := ih fun e he => hpiece e (List.mem_cons_of_mem d he)
      simp [splitBy, hd, hrest]

/-- A text either has no separator or ends its first piece at one. -/
theorem eq_append_cons_or_forall (p : Char → Bool) (s : Text) :
    (∀ c ∈ s, p c = false) ∨
      ∃ piece c rest, s = piece ++ c :: rest ∧ (∀ d ∈ piece, p d = false) ∧ p c = true := by
  induction s with
  | nil => exact .inl nofun
  | cons c s ih =>
      cases hc : p c with
      | true => exact .inr ⟨[], c, s, rfl, nofun, hc⟩
      | false =>
          rcases ih with hs | ⟨piece, d, rest, rfl, hpiece, hd⟩
          · exact .inl (by simpa [hc] using hs)
          · exact .inr ⟨c :: piece, d, rest, rfl, by simpa [hc] using hpiece, hd⟩

/-- What holds of a text without separators, and of a piece in front of a text that was split, holds
of every text that is split. -/
theorem splitBy_induction {motive : Text → List Text → Prop}
    (single : ∀ s, (∀ c ∈ s, p c = false) → motive s [s])
    (cut : ∀ piece c rest, (∀ d ∈ piece, p d = false) → p c = true →
      motive rest (splitBy p rest) → motive (piece ++ c :: rest) (piece :: splitBy p rest))
    (s : Text) : motive s (splitBy p s) := by
  induction hlength : s.length using Nat.strongRecOn generalizing s with
  | ind n ih =>
      rcases eq_append_cons_or_forall p s with hs | ⟨piece, c, rest, rfl, hpiece, hc⟩
      · rw [splitBy_of_forall hs]
        exact single s hs
      · rw [splitBy_append_cons hpiece hc]
        apply cut piece c rest hpiece hc
        refine ih rest.length ?_ rest rfl
        rw [← hlength, List.length_append, List.length_cons]
        omega

/-- A separator between two texts cuts them apart. -/
theorem splitBy_append {c : Char} (hc : p c = true) (s t : Text) :
    splitBy p (s ++ c :: t) = splitBy p s ++ splitBy p t := by
  refine splitBy_induction
    (motive := fun s pieces => splitBy p (s ++ c :: t) = pieces ++ splitBy p t) ?_ ?_ s
  · intro s hs
    exact splitBy_append_cons hs hc
  · intro piece d rest hpiece hd ih
    rw [List.append_assoc, List.cons_append, splitBy_append_cons hpiece hd, ih, List.cons_append]

theorem eq_false_of_mem_splitBy (s : Text) :
    ∀ piece ∈ splitBy p s, ∀ c ∈ piece, p c = false := by
  refine splitBy_induction (motive := fun _ pieces => ∀ piece ∈ pieces, ∀ c ∈ piece, p c = false)
    ?_ ?_ s
  · intro s hs piece hpiece
    rwa [List.mem_singleton.1 hpiece]
  · intro first c rest hfirst _ ih piece hpiece
    rcases List.mem_cons.1 hpiece with rfl | hpiece
    · exact hfirst
    · exact ih piece hpiece

theorem mem_of_mem_splitBy (s : Text) : ∀ piece ∈ splitBy p s, ∀ c ∈ piece, c ∈ s := by
  refine splitBy_induction (motive := fun s pieces => ∀ piece ∈ pieces, ∀ c ∈ piece, c ∈ s)
    ?_ ?_ s
  · intro s _ piece hpiece c hc
    rwa [List.mem_singleton.1 hpiece] at hc
  · intro first d rest _ _ ih piece hpiece c hc
    rcases List.mem_cons.1 hpiece with rfl | hpiece
    · exact List.mem_append_left _ hc
    · exact List.mem_append_right _ (List.mem_cons_of_mem d (ih piece hpiece c hc))

/-- The characters of the pieces, each piece with one separator. -/
theorem sum_length_splitBy (s : Text) :
    ((splitBy p s).map (·.length + 1)).sum = s.length + 1 := by
  refine splitBy_induction
    (motive := fun s pieces => (pieces.map (·.length + 1)).sum = s.length + 1) ?_ ?_ s
  · intro s _
    simp
  · intro piece c rest _ _ ih
    rw [List.map_cons, List.sum_cons, ih]
    simp
    omega

/-- The last piece stands at the end of the text. -/
theorem suffix_of_getLast?_splitBy (s : Text) :
    ∀ last, (splitBy p s).getLast? = some last → last <:+ s := by
  refine splitBy_induction
    (motive := fun s pieces => ∀ last, pieces.getLast? = some last → last <:+ s) ?_ ?_ s
  · intro s _ last hlast
    obtain rfl : s = last := by simpa using hlast
    exact List.suffix_rfl
  · intro piece c rest _ _ ih last hlast
    rw [List.getLast?_cons_of_ne_nil (splitBy_ne_nil p rest)] at hlast
    have hsuffix : rest <:+ piece ++ c :: rest :=
      (List.suffix_cons c rest).trans (List.suffix_append piece (c :: rest))
    exact (ih last hlast).trans hsuffix

end Split

/-! ## Joining -/

theorem join_cons {pieces : List Text} (hpieces : pieces ≠ []) (s piece : Text) :
    join s (piece :: pieces) = piece ++ s ++ join s pieces := by
  cases pieces with
  | nil => exact (hpieces rfl).elim
  | cons next pieces => rfl

theorem join_append_singleton {pieces : List Text} (hpieces : pieces ≠ []) (s last : Text) :
    join s (pieces ++ [last]) = join s pieces ++ s ++ last := by
  induction pieces with
  | nil => exact (hpieces rfl).elim
  | cons piece pieces ih =>
      by_cases hempty : pieces = []
      · subst hempty
        rfl
      · rw [List.cons_append, join_cons (by simp), ih hempty, join_cons hempty]
        simp [List.append_assoc]

theorem length_join_add_one (separator : Char) {pieces : List Text} (hpieces : pieces ≠ []) :
    (join [separator] pieces).length + 1 = (pieces.map (·.length + 1)).sum := by
  induction pieces with
  | nil => exact (hpieces rfl).elim
  | cons piece pieces ih =>
      by_cases hempty : pieces = []
      · subst hempty
        simp [join]
      · have hrest := ih hempty
        rw [join_cons hempty, List.map_cons, List.sum_cons, ← hrest]
        simp
        omega

theorem mem_join_iff {separator c : Char} (hc : c ≠ separator) (pieces : List Text) :
    c ∈ join [separator] pieces ↔ ∃ piece ∈ pieces, c ∈ piece := by
  induction pieces with
  | nil => simp [join]
  | cons piece pieces ih =>
      by_cases hempty : pieces = []
      · subst hempty
        simp [join]
      · rw [join_cons hempty]
        simp [ih, hc]

theorem splitBy_join {p : Char → Bool} {separator : Char} (hseparator : p separator = true)
    {pieces : List Text} (hpieces : pieces ≠ [])
    (hfree : ∀ piece ∈ pieces, ∀ c ∈ piece, p c = false) :
    splitBy p (join [separator] pieces) = pieces := by
  induction pieces with
  | nil => exact (hpieces rfl).elim
  | cons piece pieces ih =>
      have hpiece := hfree piece List.mem_cons_self
      by_cases hempty : pieces = []
      · subst hempty
        exact splitBy_of_forall hpiece
      · have hrest := ih hempty fun other hother => hfree other (List.mem_cons_of_mem piece hother)
        rw [join_cons hempty, List.append_assoc, List.singleton_append,
          splitBy_append_cons hpiece hseparator, hrest]

/-! ## Trimming -/

section Trim

variable {p : Char → Bool}

theorem dropEndWhile_append {t : Text} (ht : dropEndWhile p t ≠ []) (s : Text) :
    dropEndWhile p (s ++ t) = s ++ dropEndWhile p t := by
  induction s with
  | nil => rfl
  | cons c s ih =>
      rw [List.cons_append, dropEndWhile, ih]
      cases hrest : s ++ dropEndWhile p t with
      | nil => exact (ht (List.append_eq_nil_iff.1 hrest).2).elim
      | cons d rest => simp [← hrest]

theorem dropEndWhile_isPrefix (s : Text) : dropEndWhile p s <+: s := by
  induction s with
  | nil => exact List.prefix_rfl
  | cons c s ih =>
      rw [dropEndWhile]
      split
      · split
        · exact List.nil_prefix
        · exact ⟨s, rfl⟩
      · next rest _ => exact List.cons_prefix_cons.2 ⟨rfl, ih⟩

theorem eq_false_of_getLast?_dropEndWhile (s : Text) :
    ∀ c, (dropEndWhile p s).getLast? = some c → p c = false := by
  induction s with
  | nil => simp [dropEndWhile]
  | cons d s ih =>
      intro c hc
      rw [dropEndWhile] at hc
      split at hc
      · split at hc
        · cases hc
        · next hd =>
            obtain rfl : d = c := by simpa using hc
            simpa using hd
      · next rest hrest =>
          rw [List.getLast?_cons_of_ne_nil hrest] at hc
          exact ih c hc

theorem dropEndWhile_eq_self {s : Text} (hlast : ∀ c, s.getLast? = some c → p c = false) :
    dropEndWhile p s = s := by
  rcases List.eq_nil_or_concat s with rfl | ⟨front, c, rfl⟩
  · rfl
  · have hc : p c = false := hlast c (by simp)
    have hend : dropEndWhile p [c] = [c] := by simp [dropEndWhile, hc]
    rw [List.concat_eq_append, dropEndWhile_append (by simp [hend]), hend]

theorem dropEndWhile_eq_nil_iff {s : Text} : dropEndWhile p s = [] ↔ ∀ c ∈ s, p c = true := by
  induction s with
  | nil => simp [dropEndWhile]
  | cons c s ih =>
      rw [List.forall_mem_cons, ← ih, dropEndWhile]
      cases hrest : dropEndWhile p s with
      | nil => simp
      | cons d rest => simp

theorem dropEndWhile_append_of_forall {t : Text} (ht : ∀ c ∈ t, p c = true) (s : Text) :
    dropEndWhile p (s ++ t) = dropEndWhile p s := by
  induction s with
  | nil => exact dropEndWhile_eq_nil_iff.2 ht
  | cons c s ih => rw [List.cons_append, dropEndWhile, ih, dropEndWhile]

/-- Nothing is left between the two ends if every character can be taken off. -/
theorem dropEndWhile_dropWhile_eq_nil_iff {s : Text} :
    dropEndWhile p (s.dropWhile p) = [] ↔ ∀ c ∈ s, p c = true := by
  rw [dropEndWhile_eq_nil_iff]
  constructor
  · intro h c hc
    rw [← List.takeWhile_append_dropWhile (p := p) (l := s)] at hc
    rcases List.mem_append.1 hc with hc | hc
    · exact List.mem_takeWhile_imp hc
    · exact h c hc
  · intro h c hc
    exact h c ((List.dropWhile_suffix _).subset hc)

theorem trim_eq_nil_iff {s : Text} : trim s = [] ↔ ∀ c ∈ s, isBlank c = true :=
  dropEndWhile_dropWhile_eq_nil_iff

theorem trim_subset (s : Text) : trim s ⊆ s := fun _ hc =>
  (List.dropWhile_suffix _).subset ((dropEndWhile_isPrefix _).subset hc)

theorem length_trim_le (s : Text) : (trim s).length ≤ s.length :=
  Nat.le_trans (dropEndWhile_isPrefix _).length_le (List.dropWhile_suffix _).length_le

theorem trim_eq_trimEnd {s : Text} (hstart : ∀ c, s.head? = some c → isBlank c = false) :
    trim s = trimEnd s := by
  cases s with
  | nil => rfl
  | cons c s =>
      have hc : isBlank c = false := hstart c rfl
      simp [trim, trimStart, hc]

/-- Trimming a joined text trims its last piece, if that does not vanish. -/
theorem trim_join {front : List Text} {separator last : Text}
    (hstart : ∀ c, (join separator (front ++ [last])).head? = some c → isBlank c = false)
    (hlast : trimEnd last ≠ []) :
    trim (join separator (front ++ [last])) = join separator (front ++ [trimEnd last]) := by
  rw [trim_eq_trimEnd hstart]
  by_cases hfront : front = []
  · subst hfront
    rfl
  · rw [join_append_singleton hfront, join_append_singleton hfront]
    exact dropEndWhile_append hlast _

end Trim

end Phrasebook.Text
