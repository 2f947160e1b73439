import Mathlib
import Phrasebook.Text.Basic

/-!
# The order of texts

Comparing two texts decides the lexicographic order of their characters, which is that of the bytes
of their UTF-8 encodings.
-/

namespace Phrasebook.Text

theorem compare_eq_lt_iff (s t : Text) : Text.compare s t = .lt ↔ s < t := by
  induction s generalizing t with
  | nil => cases t <;> simp [Text.compare]
  | cons a s ih =>
      cases t with
      | nil => simp [Text.compare]
      | cons b t =>
          simp [Text.compare, Ordering.then_eq_lt, ih, List.cons_lt_cons_iff, compare_lt_iff_lt]

theorem compare_eq_eq_iff (s t : Text) : Text.compare s t = .eq ↔ s = t := by
  induction s generalizing t with
  | nil => cases t <;> simp [Text.compare]
  | cons a s ih =>
      cases t with
      | nil => simp [Text.compare]
      | cons b t => simp [Text.compare, Ordering.then_eq_eq, ih]

theorem compare_eq_gt_iff (s t : Text) : Text.compare s t = .gt ↔ t < s := by
  have hlt := compare_eq_lt_iff s t
  have heq := compare_eq_eq_iff s t
  rcases lt_trichotomy s t with h | h | h
  · simp [hlt.2 h, h.not_gt]
  · rw [heq.2 h]
    simp [h]
  · cases hcompare : Text.compare s t with
    | lt => exact absurd (hlt.1 hcompare) h.not_gt
    | eq => exact absurd (heq.1 hcompare) h.ne'
    | gt => simp [h]

/-! ## Bytes -/

/-- The UTF-8 encoding of a text. -/
def bytes (s : Text) : List UInt8 := s.flatMap String.utf8EncodeChar

theorem ofNat_lt_ofNat_iff {m n : Nat} (hm : m < 256) (hn : n < 256) :
    UInt8.ofNat m < UInt8.ofNat n ↔ m < n := by
  rw [UInt8.lt_iff_toNat_lt, UInt8.toNat_ofNat_of_lt' hm, UInt8.toNat_ofNat_of_lt' hn]

theorem ofNat_inj {m n : Nat} (hm : m < 256) (hn : n < 256) :
    UInt8.ofNat m = UInt8.ofNat n ↔ m = n := by
  rw [← UInt8.toNat_inj, UInt8.toNat_ofNat_of_lt' hm, UInt8.toNat_ofNat_of_lt' hn]

/-- The encodings of two characters differ in a byte that both have. -/
theorem utf8EncodeChar_append_lt {a b : Char} (h : a < b) (s t : List UInt8) :
    String.utf8EncodeChar a ++ s < String.utf8EncodeChar b ++ t := by
  have hlt : a.val.toNat < b.val.toNat := h
  have hb : b.val.toNat < 0x110000 := by
    have hvalid := b.valid
    simp only [UInt32.isValidChar, Nat.isValidChar] at hvalid
    omega
  have hsquare : ∀ n, n / 4096 = n / 64 / 64 := by omega
  have hcube : ∀ n, n / 262144 = n / 64 / 64 / 64 := by omega
  unfold String.utf8EncodeChar
  generalize a.val.toNat = v at hlt ⊢
  generalize b.val.toNat = w at hlt hb ⊢
  simp only [hsquare, hcube]
  split_ifs <;>
    simp (disch := omega) only [List.cons_append, List.nil_append, List.cons_lt_cons_iff,
      ofNat_lt_ofNat_iff, ofNat_inj] <;>
    omega

theorem bytes_lt_bytes {s t : Text} (h : s < t) : bytes s < bytes t := by
  induction s generalizing t with
  | nil =>
      cases t with
      | nil => exact absurd h (lt_irrefl _)
      | cons b t =>
          have hne : String.utf8EncodeChar b ≠ [] := by
            apply List.ne_nil_of_length_pos
            rw [String.length_utf8EncodeChar]
            exact b.utf8Size_pos
          obtain ⟨x, xs, hx⟩ := List.exists_cons_of_ne_nil hne
          simp [bytes, hx]
  | cons a s ih =>
      cases t with
      | nil => exact absurd h (List.not_lt_nil _)
      | cons b t =>
          simp only [bytes, List.flatMap_cons]
          rcases List.cons_lt_cons_iff.1 h with hab | ⟨rfl, hst⟩
          · exact utf8EncodeChar_append_lt hab _ _
          · exact List.append_left_lt (ih hst)

end Phrasebook.Text
