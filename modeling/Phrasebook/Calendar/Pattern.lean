import Phrasebook.Text.Lex

/-!
# Custom date patterns

A letter that is repeated chooses a longer form of the same field.
-/

namespace Phrasebook.DatePattern

/-- A piece of a pattern. A piece with a `run` shows more or less of its field by the length of the
run of letters; a piece with `padded` has two digits or as many as needed. -/
inductive Piece
  | day (run : Nat)
  | month (run : Nat)
  | year (run : Nat)
  | clockHour (padded : Bool)
  | hour (padded : Bool)
  | minute (padded : Bool)
  | second (padded : Bool)
  | fraction (run : Nat)
  | trimmedFraction (run : Nat)
  | designator (run : Nat)
  | offset (run : Nat)
  | zone
  | era
  | timeSeparator
  | dateSeparator
  | literal (s : Text)
deriving DecidableEq, Repr

/-- The piece that starts with `c` before `s`, and how many characters of `s` belong to it. -/
def step (c : Char) (s : Text) : Piece × Nat :=
  let more := (s.takeWhile (· == c)).length
  let padded := 0 < more
  match c with
  | 'd' => (.day (more + 1), more)
  | 'M' => (.month (more + 1), more)
  | 'y' => (.year (more + 1), more)
  | 'h' => (.clockHour padded, min more 1)
  | 'H' => (.hour padded, min more 1)
  | 'm' => (.minute padded, min more 1)
  | 's' => (.second padded, min more 1)
  | 'f' => (.fraction (more + 1), more)
  | 'F' => (.trimmedFraction (more + 1), more)
  | 't' => (.designator (more + 1), more)
  | 'z' => (.offset (more + 1), more)
  | 'K' => (.zone, more)
  | 'g' => (.era, more)
  | ':' => (.timeSeparator, 0)
  | '/' => (.dateSeparator, 0)
  | '\'' | '"' =>
    let quoted := s.takeWhile (· != c)
    (.literal quoted, quoted.length + 1)
  | '\\' => (.literal (s.take 1), 1)
  | '%' => (.literal [], 0)
  | c => (.literal [c], 0)

def ofText (pattern : Text) : List Piece := Text.lex step pattern

end Phrasebook.DatePattern
