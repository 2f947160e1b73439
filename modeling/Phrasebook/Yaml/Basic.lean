import Phrasebook.Binary64.Reader

/-!
# YAML nodes

A plain scalar is what it looks like: nothing, a boolean, a number or else text. A quoted scalar is
always text.
-/

namespace Phrasebook

/-- A node of a YAML document. -/
inductive Yaml
  | nothing
  | text (s : Text)
  | natural (n : Nat)
  /-- A boolean, or a number that is no natural of 64 bits. -/
  | scalar
  | sequence (items : List Yaml)
  | mapping (fields : List (Yaml × Yaml))

namespace Yaml

/-- Whether a plain scalar is written with digits and begins with a zero that is not the whole
number. Such a scalar is text. -/
def isZeroPadded (s : Text) : Bool :=
  match (Binary64.cutSign s).2 with
  | '0' :: c :: rest => (c :: rest).all Char.isDigit
  | _ => false

/-- The natural that a row of digits denotes, behind the mark of another base than ten if there
is one. -/
def magnitude? (s : Text) : Option Nat :=
  match s with
  | '0' :: 'x' :: row => Text.natural? 16 row
  | '0' :: 'o' :: row => Text.natural? 8 row
  | '0' :: 'b' :: row => Text.natural? 2 row
  | row => if isZeroPadded row then none else Text.natural? 10 row

/-- The integer that a plain scalar denotes. -/
def integer? (s : Text) : Option Int :=
  match s with
  | '-' :: row => (magnitude? row).map fun n => -(n : Int)
  | '+' :: row => (magnitude? row).map Int.ofNat
  | row => (magnitude? row).map Int.ofNat

def infiniteNames : List Text := [
  ".inf", ".Inf", ".INF", "+.inf", "+.Inf", "+.INF", "-.inf", "-.Inf", "-.INF",
  ".nan", ".NaN", ".NAN"]

/-- Whether a plain scalar denotes a number with a fraction or an exponent. -/
def isFraction (s : Text) : Bool :=
  if infiniteNames.contains s then true
  else
    match s with
    | '+' :: c :: _ => c ≠ '+' && c ≠ '-' && denotesFinite s
    | s => denotesFinite s
where
  /-- Whether a text denotes a finite number. -/
  denotesFinite (s : Text) : Bool :=
    match Binary64.ofText? s with
    | some (.finite _) => true
    | _ => false

def nothingNames : List Text := ["", "~", "null", "Null", "NULL"]

def booleanNames : List Text := ["true", "True", "TRUE", "false", "False", "FALSE"]

/-- The node of a plain scalar. Integers beyond 64 bits are refused, and from 129 bits on read as
fractions. -/
def ofPlain? (s : Text) : Option Yaml :=
  if nothingNames.contains s then some nothing
  else if booleanNames.contains s then some scalar
  else
    match integer? s with
    | some i =>
      if s.head? ≠ some '-' ∧ i < 2 ^ 64 then some (natural i.toNat)
      else if -2 ^ 63 ≤ i ∧ i < 0 ∨ i = 0 then some scalar
      else if -2 ^ 127 ≤ i ∧ i < 2 ^ 128 then none
      else some (if isFraction s then scalar else text s)
    | none => some (if !isZeroPadded s && isFraction s then scalar else text s)

end Yaml

end Phrasebook
