import Phrasebook.Proofs.Text.Pieces

/-!
# Taking separators out of a text

A separator that is not empty occurs in joined pieces between its neighbours and nowhere else, if no
piece has a character with which it begins. So the pieces of the joined text are the pieces that
were joined, and taking the separator out leaves the pieces one after another.
-/

namespace Phrasebook.Text

/-! ## The front of a text -/

@[simp] theorem dropFront?_append (front s : Text) : dropFront? front (front ++ s) = some s := by
  induction front with
  | nil => rfl
  | cons c front ih => simp [dropFront?, ih]

theorem dropFront?_eq_some_iff {front s rest : Text} :
    dropFront? front s = some rest ↔ s = front ++ rest := by
  constructor
  · intro h
    induction front generalizing s with
    | nil => exact Option.some.inj h
    | cons c front ih =>
        cases s with
        | nil => cases h
        | cons d s =>
            unfold dropFront? at h
            split at h
            · next heq => rw [← heq, ih h, List.cons_append]
            · cases h
  · rintro rfl
    exact dropFront?_append front rest

theorem dropFront?_cons_of_ne {c d : Char} (hne : c ≠ d) (front s : Text) :
    dropFront? (c :: front) (d :: s) = none := by
  rw [dropFront?, if_neg hne]

/-! ## Pieces -/

section Pieces

variable {c : Char} {rest piece : Text}

/-- The first occurrence of a separator is the one behind a piece that does not have its first
character. -/
theorem cutAt?_append (hpiece : c ∉ piece) (after : Text) :
    cutAt? (c :: rest) (piece ++ (c :: rest ++ after)) = some (piece, after) := by
  induction piece with
  | nil =>
      rw [List.nil_append, List.cons_append, cutAt?, ← List.cons_append, dropFront?_append]
  | cons d piece ih =>
      rw [List.mem_cons, not_or] at hpiece
      rw [List.cons_append, cutAt?, dropFront?_cons_of_ne hpiece.1, ih hpiece.2]
      rfl

theorem cutAt?_of_notMem (hpiece : c ∉ piece) : cutAt? (c :: rest) piece = none := by
  induction piece with
  | nil => rfl
  | cons d piece ih =>
      rw [List.mem_cons, not_or] at hpiece
      rw [cutAt?, dropFront?_cons_of_ne hpiece.1, ih hpiece.2]
      rfl

theorem piecesAt_join {parts : List Text} (hparts : ∀ part ∈ parts, c ∉ part) (hne : parts ≠ [])
    {count : Nat} (hcount : parts.length ≤ count) :
    piecesAt (c :: rest) count (join (c :: rest) parts) = parts := by
  induction parts generalizing count with
  | nil => exact (hne rfl).elim
  | cons part parts ih =>
      obtain ⟨hpart, hparts⟩ := List.forall_mem_cons.1 hparts
      match count with
      | 0 => cases hcount
      | 1 =>
          obtain rfl : parts = [] := by simpa using hcount
          rfl
      | count + 2 =>
          rw [List.length_cons, Nat.succ_le_succ_iff] at hcount
          rw [piecesAt, if_neg (by simp)]
          by_cases hlast : parts = []
          · subst hlast
            rw [join, cutAt?_of_notMem hpart]
          · rw [join_cons hlast, List.append_assoc, cutAt?_append hpart]
            exact congrArg (part :: ·) (ih hparts hlast hcount)

/-- Every piece but the first has a separator in front of it. -/
theorem length_le_length_join (c : Char) (rest : Text) (parts : List Text) :
    parts.length ≤ (join (c :: rest) parts).length + 1 := by
  induction parts with
  | nil => simp
  | cons part parts ih =>
      by_cases hlast : parts = []
      · subst hlast
        simp
      · rw [join_cons hlast]
        simp only [List.length_cons, List.length_append]
        omega

theorem join_nil (parts : List Text) : join [] parts = parts.flatten := by
  induction parts with
  | nil => rfl
  | cons part parts ih =>
      by_cases hlast : parts = []
      · subst hlast
        simp [join]
      · rw [join_cons hlast, ih, List.append_nil, List.flatten_cons]

theorem replaceAll_join {parts : List Text} (hparts : ∀ part ∈ parts, c ∉ part) (hne : parts ≠ []) :
    replaceAll (c :: rest) [] (join (c :: rest) parts) = parts.flatten := by
  have hcount := length_le_length_join c rest parts
  rw [replaceAll, pieces, piecesAt_join hparts hne (by omega), join_nil]

end Pieces

end Phrasebook.Text
