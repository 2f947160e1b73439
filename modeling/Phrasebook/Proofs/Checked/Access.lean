import Mathlib.Data.List.TakeWhile
import Phrasebook.Proofs.Decimal.Digits

/-!
# Checked accesses

Lists and texts that are read by position: each access says whether its position, its bounds or its
difference is in range, and a run of accesses stops at the first one that is not. Positions in a
text count characters or, where a text is cut, the bytes of its encoding.
-/

namespace Phrasebook

/-- How an access leaves its range: an element that is not there, a bound behind the end or behind
the other bound, a cut between the bytes of a character, a difference below zero, a position below
zero, or a scan that would read the same position again. -/
inductive OutOfRange
  | element
  | bound
  | character
  | difference
  | negative
  | standstill
deriving DecidableEq, Repr

/-- A result, or the first access that is out of range. -/
abbrev Checked (α : Type) := Except OutOfRange α

namespace Checked

variable {α β : Type}

@[simp] theorem bind_ok (a : α) (f : α → Checked β) : ((.ok a : Checked α) >>= f) = f a := rfl

@[simp] theorem map_ok (a : α) (f : α → β) : f <$> (.ok a : Checked α) = .ok (f a) := rfl

@[simp] theorem pure_eq_ok (a : α) : (pure a : Checked α) = .ok a := rfl

/-! ## Elements and slices -/

section Lists

variable {s : List α} {start stop position : Nat}

/-- The element at a position. -/
def element (s : List α) (position : Nat) : Checked α :=
  match s[position]? with
  | some a => .ok a
  | none => .error .element

def front (s : List α) (stop : Nat) : Checked (List α) :=
  if stop ≤ s.length then .ok (s.take stop) else .error .bound

def back (s : List α) (start : Nat) : Checked (List α) :=
  if start ≤ s.length then .ok (s.drop start) else .error .bound

/-- The elements from one position on and before another. -/
def slice (s : List α) (start stop : Nat) : Checked (List α) :=
  if start ≤ stop ∧ stop ≤ s.length then .ok ((s.take stop).drop start) else .error .bound

@[simp] theorem element_eq_ok (h : position < s.length) : element s position = .ok s[position] := by
  simp [element, h]

theorem front_eq_ok (h : stop ≤ s.length) : front s stop = .ok (s.take stop) := if_pos h

theorem back_eq_ok (h : start ≤ s.length) : back s start = .ok (s.drop start) := if_pos h

theorem slice_eq_ok (hstart : start ≤ stop) (hstop : stop ≤ s.length) :
    slice s start stop = .ok ((s.drop start).take (stop - start)) := by
  rw [slice, if_pos ⟨hstart, hstop⟩, List.drop_take]

end Lists

/-! ## Unsigned numbers -/

def minus (m n : Nat) : Checked Nat := if n ≤ m then .ok (m - n) else .error .difference

def unsigned (i : Int) : Checked Nat := if 0 ≤ i then .ok i.toNat else .error .negative

theorem minus_eq_ok {m n : Nat} (h : n ≤ m) : minus m n = .ok (m - n) := if_pos h

theorem unsigned_eq_ok {i : Int} (h : 0 ≤ i) : unsigned i = .ok i.toNat := if_pos h

/-! ## Bytes of a text -/

/-- The text before and the text behind a byte. -/
def cut : (byte : Nat) → Text → Checked (Text × Text)
  | 0, s => .ok ([], s)
  | _ + 1, [] => .error .bound
  | byte + 1, c :: s =>
    if c.utf8Size ≤ byte + 1 then
      (cut (byte + 1 - c.utf8Size) s).map fun (before, behind) => (c :: before, behind)
    else .error .character

def frontBytes (s : Text) (byte : Nat) : Checked Text := Prod.fst <$> cut byte s

def backBytes (s : Text) (byte : Nat) : Checked Text := Prod.snd <$> cut byte s

end Checked

namespace Text

variable {s t : Text}

/-- Whether every character of a text is encoded as one byte. -/
def IsSingleByte (s : Text) : Prop := ∀ c ∈ s, c.utf8Size = 1

theorem isSingleByte_of_digits (hs : ∀ c ∈ s, c.isDigit = true) : IsSingleByte s := by
  intro c hc
  have hhigh := (Char.isDigit_iff_toNat.1 (hs c hc)).2
  rw [Char.utf8Size_eq_one_iff, UInt32.le_iff_toNat_le]
  exact Nat.le_trans hhigh (by decide)

theorem isSingleByte_replicate_zero (count : Nat) : IsSingleByte (List.replicate count '0') := by
  intro c hc
  rw [List.eq_of_mem_replicate hc]
  rfl

theorem IsSingleByte.append (hs : IsSingleByte s) (ht : IsSingleByte t) :
    IsSingleByte (s ++ t) := by
  intro c hc
  rcases List.mem_append.1 hc with hc | hc
  · exact hs c hc
  · exact ht c hc

theorem IsSingleByte.byteSize_eq (hs : IsSingleByte s) : s.byteSize = s.length := by
  induction s with
  | nil => rfl
  | cons c s ih =>
      have hc : c.utf8Size = 1 := hs c List.mem_cons_self
      rw [byteSize, hc, ih fun d hd => hs d (List.mem_cons_of_mem c hd), List.length_cons,
        Nat.add_comm]

end Text

namespace Checked

variable {s : Text} {byte : Nat}

/-- Where every character is one byte, a byte is a position. -/
theorem cut_eq_ok (hs : s.IsSingleByte) (h : byte ≤ s.length) :
    cut byte s = .ok (s.take byte, s.drop byte) := by
  induction s generalizing byte with
  | nil =>
      obtain rfl := Nat.le_zero.1 h
      rfl
  | cons c s ih =>
      cases byte with
      | zero => rfl
      | succ byte =>
          have hc : c.utf8Size = 1 := hs c List.mem_cons_self
          have hrest := ih (fun d hd => hs d (List.mem_cons_of_mem c hd)) (Nat.le_of_succ_le_succ h)
          rw [cut, hc, if_pos (Nat.le_add_left 1 byte), Nat.add_sub_cancel, hrest]
          rfl

theorem frontBytes_eq_ok (hs : s.IsSingleByte) (h : byte ≤ s.length) :
    frontBytes s byte = .ok (s.take byte) := by
  rw [frontBytes, cut_eq_ok hs h, map_ok]

theorem backBytes_eq_ok (hs : s.IsSingleByte) (h : byte ≤ s.length) :
    backBytes s byte = .ok (s.drop byte) := by
  rw [backBytes, cut_eq_ok hs h, map_ok]

end Checked

end Phrasebook
