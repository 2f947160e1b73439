import Phrasebook.Argument

/-!
# Placeholders

A placeholder stands between two delimiters and names a value of the model, perhaps a path below it,
and perhaps a format.
-/

namespace Phrasebook

/-- The characters that open and close a placeholder and that introduce its format. -/
structure Delimiters where
  opening : Char
  closing : Char
  separator : Char
deriving DecidableEq, Repr

namespace Delimiters

/-- Braces, and a colon before the format. -/
def standard : Delimiters := ⟨'\x7b', '\x7d', ':'⟩

/-- The first fault of a row of delimiters: one that could stand in a path or between words, or one
that stands again further on. -/
def fault? : List Char → Option Refusal
  | [] => none
  | c :: cs =>
    if c = '.' ∨ Text.isBlank c then some (.unusableDelimiter c)
    else if c ∈ cs then some (.repeatedDelimiter c)
    else fault? cs

/-- Why the delimiters cannot be used, if they cannot. -/
def refusal? (d : Delimiters) : Option Refusal :=
  fault? [d.opening, d.closing, d.separator]

end Delimiters

/-- What the text between the delimiters of a placeholder says. The path and the format may be
empty. -/
structure Placeholder where
  root : Text
  path : Text
  format : Text
deriving DecidableEq, Repr

namespace Placeholder

/-- Cuts a path behind its root. A dot at the front belongs to the root. -/
def cutPath (s : Text) : Text × Text :=
  match Text.cut? '.' s with
  | some (c :: root, path) => (c :: root, path)
  | _ => (s, [])

/-- Reads the text between the delimiters, in which opening delimiters do not count. -/
def ofBody (d : Delimiters) (body : Text) : Placeholder :=
  let body := body.filter (· != d.opening)
  let (path, format) := (Text.cut? d.separator body).getD (body, [])
  let (root, path) := cutPath path
  ⟨root, path, format⟩

end Placeholder

end Phrasebook
