import Phrasebook.Text.Lex

/-!
# Custom number patterns

A pattern is a row of tokens, cut by `;` into sections. The tokens of a section before its first
point lay out the integer digits, those after it the fraction digits.
-/

namespace Phrasebook.Number

/-- A token of a custom pattern. -/
inductive Token
  | zero
  | hash
  | point
  | comma
  | percent
  | perMille
  | semicolon
  | exponent (upper alwaysSigned : Bool) (width : Nat)
  | literal (s : Text)
deriving DecidableEq, Repr

namespace Token

/-- Whether the token holds the place of a digit. -/
def isDigit : Token → Bool
  | zero => true
  | hash => true
  | _ => false

def isExponent : Token → Bool
  | exponent .. => true
  | _ => false

/-- The token of an exponent whose letter stands before the text, and its further characters:
perhaps a sign, then zeros. -/
def exponent? (upper : Bool) (s : Text) : Option (Token × Nat) :=
  let (alwaysSigned, signs, s) :=
    match s with
    | '+' :: s => (true, 1, s)
    | '-' :: s => (false, 1, s)
    | s => (false, 0, s)
  let width := (s.takeWhile (· == '0')).length
  if 0 < width then some (.exponent upper alwaysSigned width, signs + width) else none

/-- The token that starts with `c` before `s`, and how many characters of `s` belong to it. -/
def step (c : Char) (s : Text) : Token × Nat :=
  match c with
  | '0' => (zero, 0)
  | '#' => (hash, 0)
  | '.' => (point, 0)
  | ',' => (comma, 0)
  | '%' => (percent, 0)
  | '‰' => (perMille, 0)
  | ';' => (semicolon, 0)
  | '\\' => (literal (s.take 1), 1)
  | '\'' | '"' =>
    let quoted := s.takeWhile (· != c)
    (literal quoted, quoted.length + 1)
  | 'E' | 'e' => (exponent? (c == 'E') s).getD (literal [c], 0)
  | c => (literal [c], 0)

def ofText (pattern : Text) : List Token := Text.lex step pattern

def sections : List Token → List (List Token)
  | [] => [[]]
  | t :: ts =>
    if t = semicolon then [] :: sections ts
    else
      match sections ts with
      | [] => [[t]]
      | s :: rest => (t :: s) :: rest

/-- The tokens before the first point. -/
def integerPart (ts : List Token) : List Token := ts.takeWhile (· != point)

/-- The tokens from the first point on. -/
def fractionPart (ts : List Token) : List Token := ts.dropWhile (· != point)

end Token

/-- What a section asks of the digits: the places for integer digits, the least count of integer
digits, the least and the greatest count of fraction digits, whether to group, and how often to
divide by a thousand. -/
structure Layout where
  places : Nat
  minInteger : Nat
  minFraction : Nat
  maxFraction : Nat
  grouping : Bool
  divisions : Nat
deriving DecidableEq, Repr

def Layout.ofTokens (ts : List Token) : Layout :=
  let integer := Token.integerPart ts
  let integerPlaces := integer.filter Token.isDigit
  let fractionPlaces := (Token.fractionPart ts).filter Token.isDigit
  let fromFirst := integer.dropWhile (!·.isDigit)
  let toLast := fromFirst.reverse.dropWhile (!·.isDigit)
  let behindLast := fromFirst.reverse.takeWhile (!·.isDigit)
  { places := integerPlaces.length
    minInteger := (integerPlaces.dropWhile (· != .zero)).length
    minFraction := (fractionPlaces.reverse.dropWhile (· != .zero)).length
    maxFraction := fractionPlaces.length
    grouping := toLast.contains .comma
    divisions := behindLast.count .comma }

end Phrasebook.Number
