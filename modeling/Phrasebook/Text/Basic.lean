/-!
# Text

Text is a list of characters, so that templates, formats and tags are read by recursion on the
list and compared code point by code point.
-/

namespace Phrasebook

/-- A text, character by character. -/
abbrev Text := List Char

instance : Coe String Text := ⟨String.toList⟩

namespace Text

/-- Code point order, which is also the byte order of the UTF-8 encoding. -/
def compare : Text → Text → Ordering
  | [], [] => .eq
  | [], _ :: _ => .lt
  | _ :: _, [] => .gt
  | a :: s, b :: t => (Ord.compare a b).then (compare s t)

/-- The pieces between the characters that satisfy `p`; there is always at least one. -/
def splitBy (p : Char → Bool) : Text → List Text
  | [] => [[]]
  | c :: s =>
    if p c then [] :: splitBy p s
    else
      match splitBy p s with
      | [] => [[c]]
      | piece :: pieces => (c :: piece) :: pieces

/-- The pieces between the occurrences of `c`. -/
def splitOn (c : Char) (s : Text) : List Text :=
  splitBy (· == c) s

/-- What stands before and after the first `c`, if there is one. -/
def cut? (c : Char) : Text → Option (Text × Text)
  | [] => none
  | d :: s =>
    if d = c then some ([], s)
    else (cut? c s).map fun (before, after) => (d :: before, after)

/-- `pieces` with `separator` between neighbours. -/
def join (separator : Text) : List Text → Text
  | [] => []
  | [piece] => piece
  | piece :: pieces => piece ++ separator ++ join separator pieces

/-- The text after `front`, if the text begins with it. -/
def dropFront? : (front : Text) → Text → Option Text
  | [], s => some s
  | _ :: _, [] => none
  | c :: front, d :: s => if c = d then dropFront? front s else none

/-- Whether `part` occurs somewhere in the text. -/
def includes (part : Text) : Text → Bool
  | [] => part.isEmpty
  | c :: s => (dropFront? part (c :: s)).isSome || includes part s

/-- The text from each of its positions on, the empty text last. -/
def tails : Text → List Text
  | [] => [[]]
  | c :: s => (c :: s) :: tails s

/-- The text with its first occurrence of `c` replaced. -/
def replaceFirst (c : Char) (replacement : Text) : Text → Text
  | [] => []
  | d :: s => if d = c then replacement ++ s else d :: replaceFirst c replacement s

/-- What stands before and after the first occurrence of `part`, if there is one. -/
def cutAt? (part : Text) : Text → Option (Text × Text)
  | [] => if part.isEmpty then some ([], []) else none
  | c :: s =>
    match dropFront? part (c :: s) with
    | some after => some ([], after)
    | none => (cutAt? part s).map fun (before, after) => (c :: before, after)

/-- Every character on its own and the empty text behind them; the last of at most `count` pieces
holds what remains. -/
def charPieces : (count : Nat) → Text → List Text
  | _, [] => [[]]
  | 0, s => [s]
  | 1, s => [s]
  | count + 2, c :: s => [c] :: charPieces (count + 1) s

/-- The pieces between the occurrences of `part`; the last of at most `count` pieces holds what
remains. The empty text occurs between all characters and at both ends. -/
def piecesAt (part : Text) : (count : Nat) → Text → List Text
  | 0, s => [s]
  | 1, s => [s]
  | count + 2, s =>
    if part.isEmpty then [] :: charPieces (count + 1) s
    else
      match cutAt? part s with
      | some (before, after) => before :: piecesAt part (count + 1) after
      | none => [s]

/-- All pieces between the occurrences of `part`. -/
def pieces (part s : Text) : List Text := piecesAt part (s.length + 2) s

/-- The text with every occurrence of `part` replaced. -/
def replaceAll (part replacement s : Text) : Text := join replacement (pieces part s)

/-- The number of bytes of the UTF-8 encoding. -/
def byteSize : Text → Nat
  | [] => 0
  | c :: s => c.utf8Size + byteSize s

/-- The text whose UTF-8 encoding these bytes are, if there is one. -/
def ofBytes? (bytes : ByteArray) : Option Text := (String.fromUTF8? bytes).map String.toList

/-- Whether the code point lies in one of the ranges, both ends included. -/
def inRanges (ranges : List (Nat × Nat)) (c : Char) : Bool :=
  ranges.any fun (low, high) => low ≤ c.toNat && c.toNat ≤ high

theorem splitBy_ne_nil (p : Char → Bool) (s : Text) : splitBy p s ≠ [] := by
  cases s with
  | nil => simp [splitBy]
  | cons c s =>
    unfold splitBy
    split
    · simp
    · split <;> simp

end Text

end Phrasebook
