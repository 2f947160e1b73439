import Phrasebook.Placeholder.Token
import Phrasebook.Text.Lex

/-!
# Finding placeholders

A template is cut from left to right into literal text and placeholders. A placeholder is an opening
delimiter, at least one character other than the closing one, and a closing delimiter.
-/

namespace Phrasebook

/-- The two characters that a scan looks for. -/
structure Delimiters.Pattern where
  opening : Char
  closing : Char
deriving DecidableEq, Repr

def Delimiters.pattern (d : Delimiters) : Delimiters.Pattern := ⟨d.opening, d.closing⟩

/-- A piece of a template: a literal character or the body of a placeholder. -/
inductive Segment
  | literal (c : Char)
  | placeholder (body : Text)
deriving DecidableEq, Repr

namespace Segment

/-- The body of the placeholder whose opening delimiter stands before the text. -/
def body? (p : Delimiters.Pattern) (s : Text) : Option Text :=
  match Text.cut? p.closing s with
  | some (c :: body, _) => some (c :: body)
  | _ => none

/-- The segment that starts with `c` before `s`, and how many characters of `s` belong to it. -/
def step (p : Delimiters.Pattern) (c : Char) (s : Text) : Segment × Nat :=
  if c = p.opening then
    match body? p s with
    | some body => (placeholder body, body.length + 1)
    | none => (literal c, 0)
  else (literal c, 0)

/-- The text that a segment was cut from. -/
def source (p : Delimiters.Pattern) : Segment → Text
  | literal c => [c]
  | placeholder body => p.opening :: (body ++ [p.closing])

end Segment

def segments (p : Delimiters.Pattern) (template : Text) : List Segment :=
  Text.lex (Segment.step p) template

end Phrasebook
