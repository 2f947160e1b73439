import Phrasebook.Binary64.Logarithm
import Phrasebook.Number.Basic
import Phrasebook.Number.Pattern
import Phrasebook.Text.Blank

/-!
# Custom number formats

A section scales the number, rounds it to its count of decimals and lays the digits out over its
places from the right, so that the first place takes all digits that are left over.
-/

namespace Phrasebook.Number

/-! ## Scientific patterns -/

/-- Whether an exponent fits 32 bits with its sign. -/
def IsExponent (e : Int) : Prop := -2 ^ 31 ≤ e ∧ e < 2 ^ 31

instance (e : Int) : Decidable (IsExponent e) := by
  unfold IsExponent
  infer_instance

def maxExponent : Int := 2 ^ 31 - 1

/-- The decimal logarithm rounded down, bounded by the greatest exponent. -/
def logFloor : Binary64 → Int
  | .nan => 0
  | .infinite _ => maxExponent
  | .finite x => x.magnitude.logFloor

/-- The exponent at which the search for one begins: `x` divided by that power of ten has about
`places` integer digits. The count of places is taken modulo `2 ^ 32`, and there is no such exponent
if it or one less than the count does not fit 32 bits. -/
def firstExponent? (x : Binary64) (places : Nat) : Option Int :=
  let reach := (places : Int).bmod (2 ^ 32) - 1
  let exponent := logFloor x - reach
  if IsExponent reach ∧ IsExponent exponent then some exponent else none

/-- Whether `x`, divided by a power of ten and rounded, has at most `places` integer digits. -/
def Fits (x : Binary64) (places decimals : Nat) (exponent : Int) : Prop :=
  ((float (x.div (Binary64.powTen exponent))).fixed decimals).whole.length ≤ places

instance (x : Binary64) (places decimals : Nat) (exponent : Int) :
    Decidable (Fits x places decimals exponent) := by
  unfold Fits
  infer_instance

/-- The first exponent that fits, from `exponent` on up to the greatest one. -/
def fittingExponent? (x : Binary64) (places decimals : Nat) (exponent : Int) : Option Int :=
  if Fits x places decimals exponent then some exponent
  else if exponent < maxExponent then fittingExponent? x places decimals (exponent + 1)
  else none
termination_by (maxExponent - exponent).toNat
decreasing_by omega

/-- Mantissa and exponent of a number such that the mantissa, rounded to `decimals` places, has at
most `places` integer digits. There are none if the search for the exponent does not end. -/
def mantissa? (n : Number) (places decimals : Nat) : Option (Binary64 × Int) :=
  let x := n.toBinary64
  if x.isZero then some (Binary64.zero, 0)
  else do
    let exponent ← fittingExponent? x places decimals (← firstExponent? x places)
    return (x.div (Binary64.powTen exponent), exponent)

/-! ## Digits over places -/

/-- The digits laid out by a section. -/
structure Digits where
  whole : Text
  fraction : Text
  exponent : Int

/-- The integer digits at place number `k` of `places`: at the first all that the others leave, at
each other one that stands as far from the end as the place. -/
def digitsAt (places k : Nat) (whole : Text) : Text :=
  if k = 0 then whole.take (whole.length + 1 - places)
  else if places ≤ whole.length + k then (whole.drop (whole.length + k - places)).take 1
  else []

/-- The text of an integer place. When digits are grouped, all of them stand at the first place. -/
def placeText (culture : Culture) (layout : Layout) (d : Digits) (k : Nat) : Text :=
  if layout.grouping then if k = 0 then group culture.groupSeparator d.whole else []
  else digitsAt layout.places k d.whole

/-- The text of the first point. -/
def pointText (culture : Culture) (layout : Layout) (d : Digits) : Text :=
  (if layout.places = 0 then d.whole else []) ++
    (if d.fraction.isEmpty then [] else culture.decimalSeparator)

/-- The text of the tokens behind the point, where `seen` fraction places came before. -/
def emitFraction (d : Digits) : (seen : Nat) → List Token → Text
  | _, [] => []
  | seen, t :: ts =>
    match t with
    | .zero | .hash => (d.fraction.drop seen).take 1 ++ emitFraction d (seen + 1) ts
    | .point | .comma | .semicolon => emitFraction d seen ts
    | .percent => '%' :: emitFraction d seen ts
    | .perMille => '‰' :: emitFraction d seen ts
    | .exponent upper alwaysSigned width =>
      customExponent upper alwaysSigned width d.exponent ++ emitFraction d seen ts
    | .literal s => s ++ emitFraction d seen ts
where
  /-- An exponent in a pattern; a plus sign stands only where the pattern has one. -/
  customExponent (upper alwaysSigned : Bool) (width : Nat) (exponent : Int) : Text :=
    (if upper then 'E' else 'e') ::
      ((if exponent < 0 then ['-'] else if alwaysSigned then ['+'] else []) ++
        paddedDigits width exponent.natAbs)

/-- The text of the tokens up to the first point, where `seen` integer places came before, and of
those behind it. -/
def emitInteger (culture : Culture) (layout : Layout) (d : Digits) :
    (seen : Nat) → List Token → Text
  | _, [] => []
  | seen, t :: ts =>
    match t with
    | .zero | .hash =>
      placeText culture layout d seen ++ emitInteger culture layout d (seen + 1) ts
    | .point => pointText culture layout d ++ emitFraction d 0 ts
    | .comma | .semicolon => emitInteger culture layout d seen ts
    | .percent => '%' :: emitInteger culture layout d seen ts
    | .perMille => '‰' :: emitInteger culture layout d seen ts
    | .exponent upper alwaysSigned width =>
      emitFraction.customExponent upper alwaysSigned width d.exponent ++
        emitInteger culture layout d seen ts
    | .literal s => s ++ emitInteger culture layout d seen ts

/-! ## Sections -/

/-- The number multiplied by a hundred for every percent token and by a thousand for every per mille
token. -/
def scaleBy (n : Number) (ts : List Token) : Number :=
  ts.foldl (fun n t =>
    match t with
    | .percent => n.scale 100
    | .perMille => n.scale 1000
    | _ => n) n

/-- The fraction digits without trailing zeros beyond the least count. -/
def trimFraction (minFraction : Nat) (fraction : Text) : Text :=
  fraction.take minFraction ++ Text.dropEndWhile (· == '0') (fraction.drop minFraction)

/-- The integer digits, none for zero, filled up with zeros to the least count. -/
def padWhole (minInteger : Nat) (whole : Text) : Text :=
  (if whole = ['0'] then [] else whole).leftpad minInteger '0'

/-- The number that a section lays out, and the exponent that it shows. -/
def scaled? (ts : List Token) (n : Number) : Option (Number × Int) :=
  let layout := Layout.ofTokens ts
  let n := Nat.repeat divideByThousand layout.divisions (scaleBy n ts)
  if ts.any Token.isExponent then
    (mantissa? n (max layout.places 1) layout.maxFraction).map fun (x, e) => (float x, e)
  else some (n, 0)

/-- Writes a number with one section; there is no text if the search for an exponent does not
end. -/
def formatSection? (culture : Culture) (ts : List Token) (n : Number) (withMinus : Bool) :
    Option Text :=
  (scaled? ts n).map fun (n, exponent) =>
    let layout := Layout.ofTokens ts
    let f := n.fixed layout.maxFraction
    let d : Digits :=
      ⟨padWhole layout.minInteger f.whole, trimFraction layout.minFraction f.fraction, exponent⟩
    withSign (withMinus && f.negative) (emitInteger culture layout d 0 ts)

/-- A section of a pattern, the number that it writes, and whether a negative one gets a minus
sign. -/
structure Choice where
  tokens : List Token
  number : Number
  withMinus : Bool

/-- The section of a pattern that writes a number: the second one the magnitudes of negative
numbers, the third one zero, and the first one all others. -/
def choose (pattern : Text) (n : Number) : Choice :=
  let sections := Token.sections (Token.ofText pattern)
  let second := sections[1]?.getD []
  let third := sections[2]?.getD []
  if n.isNegative ∧ second ≠ [] then ⟨second, n.abs, false⟩
  else if n.isZero ∧ third ≠ [] then ⟨third, n, false⟩
  else ⟨sections.headD [], n, true⟩

def custom? (culture : Culture) (pattern : Text) (n : Number) : Option Text :=
  let c := choose pattern n
  formatSection? culture c.tokens c.number c.withMinus

end Phrasebook.Number
