import Phrasebook.Binary64.Arithmetic
import Phrasebook.Binary64.Digits
import Phrasebook.Culture.Basic

/-!
# Numbers and their digits

A number is an exact integer or a floating point number. Integers stay exact under the scaling of
percent and per mille as long as they fit 128 bits.
-/

namespace Phrasebook

inductive Number
  | integer (i : Int)
  | float (x : Binary64)
deriving DecidableEq

namespace Number

/-- Whether an integer fits 128 bits with its sign. -/
def IsWide (i : Int) : Prop := -2 ^ 127 ≤ i ∧ i < 2 ^ 127

instance (i : Int) : Decidable (IsWide i) := by
  unfold IsWide
  infer_instance

def isNegative : Number → Bool
  | integer i => decide (i < 0)
  | float x => x.isNegative

def isZero : Number → Bool
  | integer i => i == 0
  | float x => x.isZero

/-- The nearest floating point number. -/
def toBinary64 : Number → Binary64
  | integer i => Binary64.ofInt i
  | float x => x

/-- The magnitude of a number. An integer of 128 bits has one of 128 bits, unless it is `-2 ^ 127`;
that one is given its magnitude here all the same. -/
def abs : Number → Number
  | integer i => integer i.natAbs
  | float x => float x.abs

def neg : Number → Number
  | integer i => integer (-i)
  | float x => float x.neg

/-- The product with an integer, exact if it fits. -/
def scale (n : Number) (factor : Int) : Number :=
  match n with
  | integer i =>
    if IsWide (i * factor) then integer (i * factor)
    else float ((Binary64.ofInt i).mul (Binary64.ofInt factor))
  | float x => float (x.mul (Binary64.ofInt factor))

def divideByThousand (n : Number) : Number :=
  float (n.toBinary64.div (Binary64.ofInt 1000))

/-- A number rounded to a fixed count of decimals. -/
structure Fixed where
  negative : Bool
  whole : Text
  fraction : Text
deriving DecidableEq

/-- The integer digits and exactly `decimals` fraction digits; words for what is not finite stand in
place of the integer digits. A number that rounds to zero has no sign. -/
def fixed (n : Number) (decimals : Nat) : Fixed :=
  match n with
  | integer i => ⟨decide (i < 0), digits i.natAbs, List.replicate decimals '0'⟩
  | float .nan => ⟨false, "NaN", []⟩
  | float (.infinite negative) => ⟨negative, "inf", []⟩
  | float (.finite x) =>
    let (whole, fraction) := x.magnitude.fixed decimals
    ⟨x.negative && (whole ++ fraction).any (· != '0'), whole, fraction⟩

/-! ## Pieces of text -/

/-- The digits with `separator` before every group of three that others precede. -/
def group (separator : Text) : Text → Text
  | [] => []
  | c :: s =>
    if s.length % 3 = 0 ∧ s ≠ [] then c :: (separator ++ group separator s)
    else c :: group separator s

/-- Integer digits, and the fraction digits, if there are any, after a decimal separator. -/
def joinFraction (culture : Culture) (whole fraction : Text) : Text :=
  if fraction.isEmpty then whole else whole ++ culture.decimalSeparator ++ fraction

def withSign (negative : Bool) (body : Text) : Text :=
  if negative then '-' :: body else body

/-- An exponent with its letter and its sign, of at least `width` digits. -/
def exponentText (exponent : Int) (width : Nat) (upper : Bool) : Text :=
  (if upper then 'E' else 'e') :: (if exponent < 0 then '-' else '+') ::
    paddedDigits width exponent.natAbs

end Number

end Phrasebook
