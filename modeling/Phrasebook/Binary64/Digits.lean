import Phrasebook.Binary64.Basic
import Phrasebook.Decimal.Digits
import Phrasebook.Text.Blank

/-!
# Decimal digits of a magnitude

A fixed number of places, a fixed number of significant digits, and the fewest digits that read
back to the same magnitude. All three are exact.
-/

namespace Phrasebook.Binary64

/-- A row of significant decimal digits: `digits` written after `d.ddd` times ten to `exponent`. -/
structure Scientific where
  digits : Nat
  exponent : Int
deriving DecidableEq, Repr

/-- What decides between two rows of digits that are equally near. -/
inductive Tie
  | even
  | up
deriving DecidableEq, Repr

namespace Magnitude

/-- The nearest whole number of steps of `10 ^ -places`, ties to even. -/
def scaled (m : Magnitude) (places : Nat) : Nat :=
  roundHalfEven (m.units * 10 ^ places) unitsOfOne

/-- The integer digits, and exactly `places` fraction digits. -/
def fixed (m : Magnitude) (places : Nat) : Text × Text :=
  let n := m.scaled places
  (Phrasebook.digits (n / 10 ^ places),
    if places = 0 then [] else paddedDigits places (n % 10 ^ places))

/-- The exponent `e` with `10 ^ e ≤ m < 10 ^ (e + 1)`, for a magnitude that is not zero. -/
def decade (m : Magnitude) : Int :=
  ((Phrasebook.digits (m.units * 10 ^ 324 / unitsOfOne)).length : Int) - 325

/-- The whole number nearest to `m * 10 ^ power`, ties to even. -/
def shifted (m : Magnitude) (power : Int) : Nat :=
  if power < 0 then roundHalfEven m.units (unitsOfOne * 10 ^ power.natAbs)
  else roundHalfEven (m.units * 10 ^ power.natAbs) unitsOfOne

/-- `places + 1` significant digits, ties to even. -/
def scientific (m : Magnitude) (places : Nat) : Scientific :=
  if m.isZero then ⟨0, 0⟩
  else
    let n := m.shifted (places - m.decade)
    if n = 10 ^ (places + 1) then ⟨10 ^ places, m.decade + 1⟩ else ⟨n, m.decade⟩

/-- Whether `n * 10 ^ power` rounds to `m`. -/
def readsBack (m : Magnitude) (n : Nat) (power : Int) : Bool :=
  let gap := spacing m.units
  let point := if power < 0 then 4 * n * unitsOfOne else 4 * n * unitsOfOne * 10 ^ power.natAbs
  let scale := if power < 0 then 10 ^ power.natAbs else 1
  let gapBelow := if gap ≠ 1 ∧ m.units = 2 ^ m.units.log2 then gap else 2 * gap
  let low := (4 * m.units - gapBelow) * scale
  let high := (4 * m.units + 2 * gap) * scale
  if m.units / gap % 2 = 0 then decide (low ≤ point) && decide (point ≤ high)
  else decide (low < point) && decide (point < high)

/-- The natural nearest to `m * 10 ^ -power` among its two neighbours that read back. -/
def nearestReadingBack? (m : Magnitude) (tie : Tie) (power : Int) : Option Nat :=
  let numerator := if power < 0 then m.units * 10 ^ power.natAbs else m.units
  let denominator := if power < 0 then unitsOfOne else unitsOfOne * 10 ^ power.natAbs
  let below := numerator / denominator
  match m.readsBack below power, m.readsBack (below + 1) power with
  | true, true =>
    match compare (2 * numerator) ((2 * below + 1) * denominator) with
    | .lt => some below
    | .eq => if tie = .even ∧ below % 2 = 0 then some below else some (below + 1)
    | .gt => some (below + 1)
  | true, false => some below
  | false, true => some (below + 1)
  | false, false => none

/-- The first `count` in `counts` for which that many digits read back, with these digits. -/
def fewest? (m : Magnitude) (tie : Tie) : List Nat → Option (Nat × Nat)
  | [] => none
  | count :: counts =>
    match m.nearestReadingBack? tie (m.decade + 1 - count) with
    | some n => some (count, n)
    | none => m.fewest? tie counts

/-- The fewest digits that read back; of those the nearest. Zero is written with exponent zero. -/
def shortest (m : Magnitude) (tie : Tie) : Scientific :=
  if m.isZero then ⟨0, 0⟩
  else
    match m.fewest? tie (List.range' 1 17) with
    | some (count, n) =>
      if n = 10 ^ count then ⟨1, m.decade + 1⟩ else ⟨n, m.decade⟩
    | none => m.scientific 16

end Magnitude

/-- How a finite number is written: its exponents from `lowest` to below `limit` positionally, all
others with an exponent, which has a plus sign if `signed`. -/
structure Style where
  tie : Tie
  lowest : Int
  limit : Int
  signed : Bool

/-- The digits of a row without its trailing zeros. -/
def Scientific.text (s : Scientific) : Text :=
  match Text.dropEndWhile (· == '0') (Phrasebook.digits s.digits) with
  | [] => "0"
  | t => t

/-- `digits` after `0.` or with a point behind digit number `exponent`; whole numbers end in
`.0`. -/
def positional (digits : Text) (exponent : Int) : Text :=
  if exponent < 0 then
    "0." ++ List.replicate (exponent.natAbs - 1) '0' ++ digits
  else
    let size := exponent.natAbs + 1
    if digits.length ≤ size then
      digits ++ List.replicate (size - digits.length) '0' ++ ".0"
    else digits.take size ++ "." ++ digits.drop size

/-- The shortest text that reads back, laid out in a style. -/
def Finite.text (style : Style) (x : Finite) : Text :=
  let s := x.magnitude.shortest style.tie
  let digits := s.text
  let body :=
    if style.lowest ≤ s.exponent ∧ s.exponent < style.limit then positional digits s.exponent
    else
      digits.take 1 ++ (if digits.length = 1 then [] else '.' :: digits.drop 1) ++ "e" ++
        (if s.exponent < 0 then ['-'] else if style.signed then ['+'] else []) ++
        Phrasebook.digits s.exponent.natAbs
  if x.negative then '-' :: body else body

end Phrasebook.Binary64
