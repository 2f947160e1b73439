import Phrasebook.Text.Basic

/-!
# White space

The characters with the `White_Space` property, and trimming by them.
-/

namespace Phrasebook.Text

/-- The `White_Space` property. -/
def isBlank (c : Char) : Bool :=
  let n := c.toNat
  (0x9 ≤ n && n ≤ 0xD) || n == 0x20 || n == 0x85 || n == 0xA0 || n == 0x1680 ||
    (0x2000 ≤ n && n ≤ 0x200A) || n == 0x2028 || n == 0x2029 || n == 0x202F || n == 0x205F ||
    n == 0x3000

/-- The five ASCII characters of white space other than the vertical tab. -/
def isAsciiBlank (c : Char) : Bool :=
  c == ' ' || c == '\t' || c == '\n' || c == '\r' || c == '\x0c'

/-- The text without the characters at its end that satisfy `p`. -/
def dropEndWhile (p : Char → Bool) : Text → Text
  | [] => []
  | c :: s =>
    match dropEndWhile p s with
    | [] => if p c then [] else [c]
    | rest => c :: rest

def trimStart (s : Text) : Text := s.dropWhile isBlank

def trimEnd (s : Text) : Text := dropEndWhile isBlank s

def trim (s : Text) : Text := trimEnd (trimStart s)

/-- The runs of characters that are not white space. -/
def words (s : Text) : List Text := (splitBy isBlank s).filter (!·.isEmpty)

/-- The first `count - 1` words of a text, and what remains behind the white space after them. -/
def wordsAtMost : (count : Nat) → Text → List Text
  | 0, _ => []
  | 1, s => if (trimStart s).isEmpty then [] else [trimStart s]
  | count + 2, s =>
    match trimStart s with
    | [] => []
    | c :: s =>
      (c :: s.takeWhile (!isBlank ·)) :: wordsAtMost (count + 1) (s.dropWhile (!isBlank ·))

def dropReturn (line : Text) : Text := if line.getLast? = some '\r' then line.dropLast else line

/-- The lines of a text; a line break at its end begins no other line. -/
def lines (s : Text) : List Text :=
  let pieces := splitOn '\n' s
  if pieces.getLast? = some [] then (pieces.dropLast).map dropReturn
  else pieces.dropLast.map dropReturn ++ (pieces.getLast?.toList)

end Phrasebook.Text
