import Phrasebook.Text.Word

/-!
# Inflection rules

A rule says in what the kept part of a word ends, what stands behind it and is dropped, and what
takes the place of that.
-/

namespace Phrasebook.Inflection

inductive Letters
  | among (letters : Text)
  | except (letters : Text)
deriving DecidableEq, Repr

def Letters.contains : Letters → Char → Bool
  | among letters, c => List.elem c letters
  | except letters, c => !List.elem c letters

/-- A row of characters, each from its set. -/
abbrev Shape := List Letters

def exactly (s : Text) : Shape := s.map fun c => .among [c]

/-- The text behind a front of this shape. -/
def Shape.strip? : Shape → Text → Option Text
  | [], s => some s
  | _ :: _, [] => none
  | letters :: shape, c :: s => if letters.contains c then Shape.strip? shape s else none

/-- An inflection rule. The kept part is a run of word characters and one of `stems`; one of
`endings` follows it. -/
structure Rule where
  stems : List Shape
  endings : List Shape
  replacement : Text
  /-- Whether the stem begins the word, with no word characters before it. -/
  fromStart : Bool := false
  /-- Whether the ending ends the word. -/
  toEnd : Bool := true

namespace Rule

/-- The kept part of a text that begins with `run` word characters before a stem. -/
def keepAfter? (r : Rule) (s : Text) (run : Nat) : Option Text :=
  r.stems.findSome? fun stem =>
    (stem.strip? (s.drop run)).bind fun behindStem =>
      r.endings.findSome? fun ending =>
        (ending.strip? behindStem).bind fun rest =>
          if r.toEnd && !rest.isEmpty then none
          else some (s.take (s.length - behindStem.length))

/-- The kept part of a text that the rule matches from its first character on, with as many word
characters before the stem as possible. -/
def keep? (r : Rule) (s : Text) : Option Text :=
  let longest := if r.fromStart then 0 else (s.takeWhile Text.isWordChar).length
  (List.range (longest + 1)).reverse.findSome? (r.keepAfter? s)

/-- The word that the rule makes. What precedes the first match is dropped. -/
def inflect? (r : Rule) (word : Text) : Option Text :=
  ((if r.fromStart then [word] else Text.tails word).findSome? r.keep?).map (· ++ r.replacement)

end Rule

end Phrasebook.Inflection
