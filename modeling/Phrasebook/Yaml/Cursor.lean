import Phrasebook.Text.Basic

/-!
# Places in a YAML text

Line and column decide what belongs together, so a reader carries them along with the text that
remains. A line feed ends every line, and so do the line and paragraph separators.
-/

namespace Phrasebook.Yaml

def isBreak (c : Char) : Bool := c == '\n' || c == '\u2028' || c == '\u2029'

def isBlank (c : Char) : Bool := c == ' ' || c == '\t'

/-- The text with a line feed for every other way to end a line. -/
def unifyBreaks : Text → Text
  | [] => []
  | '\r' :: '\n' :: s => '\n' :: unifyBreaks s
  | c :: s => (if c = '\r' ∨ c = '\u0085' then '\n' else c) :: unifyBreaks s

def isAllowed (c : Char) : Bool :=
  let n := c.toNat
  c == '\t' || c == '\n' || c == '\r' || (0x20 ≤ n && n ≤ 0x7E) || n == 0x85 ||
    (0xA0 ≤ n && n ≤ 0xFFFD) || 0x10000 ≤ n

/-- Whether a word ends here. -/
def atBlank : Text → Bool
  | [] => true
  | c :: _ => isBlank c || isBreak c

/-- Whether a text begins with three times `c` and nothing else in this word. -/
def beginsWithMark (c : Char) (s : Text) : Bool :=
  match Text.dropFront? [c, c, c] s with
  | some rest => atBlank rest
  | none => false

structure Cursor where
  /-- The text from here on. -/
  rest : Text
  line : Nat
  column : Nat
  /-- Whether a key or an item may begin here, because only spaces stand before it. -/
  isFresh : Bool

namespace Cursor

def start (s : Text) : Cursor := ⟨s, 0, 0, true⟩

/-- The place `count` characters further on in the same line. -/
def advance (c : Cursor) (count : Nat) : Cursor :=
  ⟨c.rest.drop count, c.line, c.column + count, false⟩

/-- Whether a mark that begins or ends a document stands here. -/
def atMark (c : Cursor) : Bool :=
  c.column == 0 && (beginsWithMark '-' c.rest || beginsWithMark '.' c.rest)

/-- Whether nothing of the document remains. -/
def atEnd (c : Cursor) : Bool := c.rest.isEmpty || c.atMark

/-- The next place behind blanks and comments at which something is written. A tab does not indent,
so it is not passed over where a key may begin. -/
def skipFrom (inBrackets : Bool) :
    (inComment : Bool) → Text → (line column : Nat) → (isFresh : Bool) → Cursor
  | _, [], line, column, isFresh => ⟨[], line, column, isFresh⟩
  | inComment, c :: s, line, column, isFresh =>
    if isBreak c then skipFrom inBrackets false s (line + 1) 0 (isFresh || !inBrackets)
    else if inComment || c == ' ' || c == '\t' && (inBrackets || !isFresh) then
      skipFrom inBrackets inComment s line (column + 1) isFresh
    else if c = '#' then skipFrom inBrackets true s line (column + 1) isFresh
    else ⟨c :: s, line, column, isFresh⟩

/-- The next place at which something is written. -/
def skip (c : Cursor) (inBrackets : Bool) : Cursor :=
  skipFrom inBrackets false c.rest c.line c.column c.isFresh

end Cursor

end Phrasebook.Yaml
