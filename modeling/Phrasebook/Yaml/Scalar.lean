import Phrasebook.Decimal.Digits
import Phrasebook.Yaml.Cursor

/-!
# Reading YAML scalars

White space between two words of a scalar is kept when it stands within a line. A line break is
folded into a space, and several line breaks into one fewer.
-/

namespace Phrasebook.Yaml

/-- The white space since the last word of a scalar. -/
inductive Gap
  | none
  | blanks (s : Text)
  /-- The first line break, which an escape can make empty, and all others. -/
  | breaks (first more : Text)

namespace Gap

def isNone : Gap → Bool
  | none => true
  | _ => false

def isBreaks : Gap → Bool
  | breaks _ _ => true
  | _ => false

/-- The gap with another blank. Blanks around line breaks do not count. -/
def addBlank (c : Char) : Gap → Gap
  | none => blanks [c]
  | blanks s => blanks (s ++ [c])
  | breaks first more => breaks first more

def addBreak (c : Char) : Gap → Gap
  | breaks first more => breaks first (more ++ [c])
  | _ => breaks [c] []

/-- What a gap contributes to the scalar. -/
def text : Gap → Text
  | none => []
  | blanks s => s
  | breaks first more =>
    if first = ['\n'] then if more = [] then [' '] else more else first ++ more

end Gap

/-- The characters that have a meaning of their own between brackets. -/
def isBracketMark (c : Char) : Bool :=
  c == ',' || c == '[' || c == ']' || c == '\x7b' || c == '\x7d'

def beginsPlain (inBrackets : Bool) : Text → Bool
  | [] => false
  | c :: s =>
    let follows := match s with
      | [] => true
      | d :: _ => !isBlank d
    if c = '-' then follows
    else if c = '?' ∨ c = ':' then !inBrackets && !atBlank s
    else !isBlank c && !isBreak c && !isBracketMark c &&
      !("#&*!|>'\"%@\x60".toList.contains c)

def endsPlain (inBrackets : Bool) : Text → Bool
  | [] => true
  | c :: s => c == ':' && atBlank s || inBrackets && isBracketMark c

/-- Whether a colon stands here that neither ends a plain scalar between brackets nor may be part
of one. -/
def isStrayColon : Text → Bool
  | ':' :: c :: _ => isBracketMark c || c == '?'
  | _ => false

/-- The rest of a plain scalar behind a gap, and the place behind the scalar and the white space
after it. Outside of brackets its lines begin at `margin` or further in. -/
def plainFrom (inBrackets : Bool) (margin : Nat) :
    (s : Text) → (line column : Nat) → Gap → Option (Text × Cursor)
  | [], line, column, gap => some ([], ⟨[], line, column, gap.isBreaks⟩)
  | c :: s, line, column, gap =>
    if isBreak c then plainFrom inBrackets margin s (line + 1) 0 (gap.addBreak c)
    else if isBlank c then
      if gap.isBreaks && c == '\t' && column < margin then none
      else plainFrom inBrackets margin s line (column + 1) (gap.addBlank c)
    else if !gap.isNone && (!inBrackets && gap.isBreaks && column < margin || c == '#') ||
        Cursor.atMark ⟨c :: s, line, column, false⟩ then
      some ([], ⟨c :: s, line, column, gap.isBreaks⟩)
    else if inBrackets && isStrayColon (c :: s) then none
    else if endsPlain inBrackets (c :: s) then some ([], ⟨c :: s, line, column, gap.isBreaks⟩)
    else do
      let (tail, cursor) ← plainFrom inBrackets margin s line (column + 1) .none
      return (gap.text ++ c :: tail, cursor)

def readPlain (inBrackets : Bool) (margin : Nat) (c : Cursor) : Option (Text × Cursor) :=
  plainFrom inBrackets margin c.rest c.line c.column .none

def escaped? : Char → Option Char
  | '0' => some '\x00'
  | 'a' => some '\x07'
  | 'b' => some '\x08'
  | 't' | '\t' => some '\t'
  | 'n' => some '\n'
  | 'v' => some '\x0b'
  | 'f' => some '\x0c'
  | 'r' => some '\r'
  | 'e' => some '\x1b'
  | ' ' => some ' '
  | '"' => some '"'
  | '/' => some '/'
  | '\\' => some '\\'
  | 'N' => some '\u0085'
  | '_' => some '\u00a0'
  | 'L' => some '\u2028'
  | 'P' => some '\u2029'
  | _ => none

/-- How many hexadecimal digits follow a letter after a backslash. -/
def escapeWidth? : Char → Option Nat
  | 'x' => some 2
  | 'u' => some 4
  | 'U' => some 8
  | _ => none

/-- The character that an escape stands for, and the number of its characters, the backslash not
counted. -/
def readEscape (s : Text) : Option (Char × Nat) :=
  match s with
  | [] => none
  | c :: s =>
    match escapeWidth? c with
    | some width => do
      let row := s.take width
      let n ← if row.length = width then Text.natural? 16 row else none
      if n < 0xD800 ∨ 0xE000 ≤ n ∧ n < 0x110000 then some (Char.ofNat n, width + 1) else none
    | none => (escaped? c).map (·, 1)

/-- The rest of a quoted scalar of at most `size` characters behind a gap, and the place behind its
closing quote. In single quotes a quote is written twice. -/
def quotedFrom (quote : Char) :
    (size : Nat) → (s : Text) → (line column : Nat) → Gap → Option (Text × Cursor)
  | 0, _, _, _, _ => none
  | _, [], _, _, _ => none
  | size + 1, c :: s, line, column, gap =>
    if Cursor.atMark ⟨c :: s, line, column, false⟩ then none
    else if isBreak c then quotedFrom quote size s (line + 1) 0 (gap.addBreak c)
    else if isBlank c then quotedFrom quote size s line (column + 1) (gap.addBlank c)
    else if c = quote then
      if quote = '\'' ∧ s.head? = some '\'' then do
        let (tail, cursor) ← quotedFrom quote size s.tail line (column + 2) .none
        return (gap.text ++ '\'' :: tail, cursor)
      else some (gap.text, ⟨s, line, column + 1, false⟩)
    else if quote = '"' ∧ c = '\\' then
      if s.head?.any isBreak then do
        let (tail, cursor) ← quotedFrom quote size s.tail (line + 1) 0 (.breaks [] [])
        return (gap.text ++ tail, cursor)
      else do
        let (d, count) ← readEscape s
        let (tail, cursor) ← quotedFrom quote size (s.drop count) line (column + 1 + count) .none
        return (gap.text ++ d :: tail, cursor)
    else do
      let (tail, cursor) ← quotedFrom quote size s line (column + 1) .none
      return (gap.text ++ c :: tail, cursor)

def readQuoted (c : Cursor) : Option (Text × Cursor) :=
  match c.rest with
  | quote :: s => quotedFrom quote (s.length + 1) s c.line (c.column + 1) .none
  | [] => none

end Phrasebook.Yaml
