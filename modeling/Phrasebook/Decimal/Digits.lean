import Phrasebook.Text.Basic

/-!
# Digits of naturals

Powers of naturals are those of the core library, also where a more general power is in scope.
-/

attribute [instance (high + 1), default_instance (high + 1)] instPowNat

namespace Phrasebook

/-- The decimal digits of `n` without leading zeros; `0` is one digit. -/
def digits (n : Nat) : Text := Nat.toDigits 10 n

/-- The digits of `n`, filled up with zeros on the left to at least `width` characters. -/
def paddedDigits (width n : Nat) : Text := (digits n).leftpad width '0'

/-- The decimal text of an integer, with `-` in front of a negative one. -/
def integerText (i : Int) : Text :=
  if i < 0 then '-' :: digits i.natAbs else digits i.natAbs

def digitValue (c : Char) : Nat := c.toNat - '0'.toNat

/-- The number that a row of decimal digits denotes. -/
def valueOf (s : Text) : Nat :=
  s.foldl (fun n c => 10 * n + digitValue c) 0

/-- The value of a digit in a base; letters of either case follow the digit nine. -/
def Text.digitIn? (base : Nat) (c : Char) : Option Nat :=
  let value := if c.isDigit then c.toNat - '0'.toNat else c.toLower.toNat - 'a'.toNat + 10
  if c.isAlphanum ∧ value < base then some value else none

/-- The natural that a row of digits denotes in a base; there has to be a digit. -/
def Text.natural? (base : Nat) (row : Text) : Option Nat :=
  if row.isEmpty then none
  else row.foldlM (fun n c => (digitIn? base c).map (base * n + ·)) 0

end Phrasebook
