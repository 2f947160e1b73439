import Phrasebook.Number.Basic
import Phrasebook.Format.Error

/-!
# Standard number formats

A standard format is one letter, which names a way of writing, and perhaps a precision.
-/

namespace Phrasebook.Number

/-- The letter and the precision text of a standard format. -/
def standard? : Text → Option (Char × Text)
  | [] => none
  | c :: precision =>
    if c.isAlpha ∧ precision.all Char.isDigit then some (c, precision) else none

def maxPrecision : Nat := 99

/-- The significant digits of a magnitude without trailing zeros, and its decimal exponent: as many
as `precision` says, or the fewest that read back. -/
def significant (m : Binary64.Magnitude) (precision : Option Nat) : Text × Int :=
  let s := match precision with
    | some p => m.scientific (p - 1)
    | none => m.shortest .up
  (s.text, s.exponent)

/-- General notation: positional from exponent -4 to below the precision, or 15 without one. -/
def generalFinite (culture : Culture) (x : Binary64.Finite) (precision : Option Nat)
    (upper : Bool) : Text :=
  if x.magnitude.isZero then "0"
  else
    let (digits, exponent) := significant x.magnitude precision
    withSign x.negative <|
      if -5 < exponent ∧ exponent < (precision.getD 15 : Nat) then
        if exponent < 0 then
          joinFraction culture "0" (List.replicate (exponent.natAbs - 1) '0' ++ digits)
        else
          let size := exponent.natAbs + 1
          if size < digits.length then joinFraction culture (digits.take size) (digits.drop size)
          else digits ++ List.replicate (size - digits.length) '0'
      else
        joinFraction culture (digits.take 1) (digits.drop 1) ++ exponentText exponent 2 upper

/-- The general format; without a precision an integer is written with all its digits. -/
def general (culture : Culture) (n : Number) (precision : Option Nat) (upper : Bool) : Text :=
  match n, precision with
  | integer i, none => integerText i
  | n, precision =>
    match n.toBinary64 with
    | .finite x => generalFinite culture x precision upper
    | .infinite negative => withSign negative "inf"
    | .nan => "NaN"

/-- Scientific notation: one digit, `precision` further digits, and an exponent. -/
def scientific (culture : Culture) (n : Number) (precision : Nat) (upper : Bool) : Text :=
  match n.toBinary64 with
  | .finite x =>
    let s := x.magnitude.scientific precision
    let digits := paddedDigits (precision + 1) s.digits
    withSign (x.negative && !x.magnitude.isZero) <|
      joinFraction culture (digits.take 1) (digits.drop 1) ++ exponentText s.exponent 3 upper
  | .infinite negative => withSign negative ("inf" ++ exponentText 0 3 upper)
  | .nan => "NaN" ++ exponentText 0 3 upper

def grouped (culture : Culture) (f : Fixed) : Text :=
  joinFraction culture (group culture.groupSeparator f.whole) f.fraction

/-- The magnitude in the place of the `n` of a pattern. -/
def inPattern (culture : Culture) (pattern : Text) (f : Fixed) : Text :=
  withSign f.negative (Text.replaceFirst 'n' (grouped culture f) pattern)

/-- The hexadecimal digits of an integer; a negative one is taken modulo `2 ^ 64`. -/
def hexadecimal (i : Int) (width : Nat) (upper : Bool) : Text :=
  let bits := if i < 0 then (i % 2 ^ 64).toNat else i.toNat
  let digits := (Nat.toDigits 16 bits).leftpad width '0'
  if upper then digits.map Char.toUpper else digits

def standard (culture : Culture) (n : Number) (letter : Char) (precision : Option Nat) :
    Except FormatFault Text :=
  let upper := letter.isUpper
  match letter.toUpper, n with
  | 'C', n => .ok (inPattern culture culture.currency (n.fixed (precision.getD 2)))
  | 'D', integer i => .ok (withSign (decide (i < 0)) (paddedDigits (precision.getD 0) i.natAbs))
  | 'D', float _ => .error .integersOnly
  | 'E', n => .ok (scientific culture n (precision.getD 6) upper)
  | 'F', n =>
    let f := n.fixed (precision.getD 2)
    .ok (withSign f.negative (joinFraction culture f.whole f.fraction))
  | 'G', n => .ok (general culture n (precision.filter (0 < ·)) upper)
  | 'R', n => .ok (general culture n none true)
  | 'N', n =>
    let f := n.fixed (precision.getD 2)
    .ok (withSign f.negative (grouped culture f))
  | 'P', n => .ok (inPattern culture culture.percent ((n.scale 100).fixed (precision.getD 2)))
  | 'X', integer i => .ok (hexadecimal i (precision.getD 0) upper)
  | 'X', float _ => .error .integersOnly
  | _, _ => .error (.unknownNumberLetter letter)

end Phrasebook.Number
