import Phrasebook.Binary64.Basic
import Phrasebook.Decimal.Digits

/-!
# The number nearest to a decimal
-/

namespace Phrasebook.Binary64

/-- The number nearest to `n * 10 ^ exponent`, where `n` has `count` digits. Beyond an exponent of
400 it is infinite, and below one of -400 it is zero. -/
def ofDecimal (negative : Bool) (n count : Nat) (exponent : Int) : Binary64 :=
  if n = 0 then .finite ⟨negative, .zero⟩
  else if exponent > 400 then .infinite negative
  else if exponent + count < -400 then .finite ⟨negative, .zero⟩
  else if exponent < 0 then ofRatio negative n (10 ^ exponent.natAbs)
  else ofRatio negative (n * 10 ^ exponent.natAbs) 1

/-- The sign at the front of a text, and what follows it. -/
def cutSign : Text → Bool × Text
  | '-' :: s => (true, s)
  | '+' :: s => (false, s)
  | s => (false, s)

/-- The exponent behind the digits of a number; nothing means zero. -/
def exponent? : Text → Option Int
  | [] => some 0
  | c :: s =>
    let (negative, row) := cutSign s
    if (c = 'e' ∨ c = 'E') ∧ row ≠ [] ∧ row.all Char.isDigit then
      some (if negative then -(valueOf row : Int) else valueOf row)
    else none

/-- The number that a text denotes: digits with at most one point in or around them and perhaps an
exponent, or the name of a number that is not finite. -/
def ofText? (s : Text) : Option Binary64 :=
  let (negative, s) := cutSign s
  match String.ofList (s.map Char.toLower) with
  | "nan" => some .nan
  | "inf" | "infinity" => some (.infinite negative)
  | _ =>
    let whole := s.takeWhile Char.isDigit
    let (fraction, tail) :=
      match s.dropWhile Char.isDigit with
      | '.' :: s => (s.takeWhile Char.isDigit, s.dropWhile Char.isDigit)
      | s => ([], s)
    let row := whole ++ fraction
    if row = [] then none
    else (exponent? tail).map fun e =>
      ofDecimal negative (valueOf row) row.length (e - (fraction.length : Int))

end Phrasebook.Binary64
