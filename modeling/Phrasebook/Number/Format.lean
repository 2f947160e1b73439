import Phrasebook.Number.Custom
import Phrasebook.Number.Standard

/-!
# Formatting a number
-/

namespace Phrasebook.Number

/-- The precision that digits denote, if it is not too great; no digits mean none. -/
def precision? (s : Text) : Except FormatFault (Option Nat) :=
  if s.isEmpty then .ok none
  else if valueOf s ≤ maxPrecision then .ok (some (valueOf s))
  else .error .precisionOutOfRange

def formatStandard (culture : Culture) (n : Number) (letter : Char) (precision : Text) :
    Except FormatFault Text :=
  match precision? precision with
  | .ok precision => standard culture n letter precision
  | .error fault => .error fault

/-- Writes a finite number with a standard or a custom format. There is no answer if the search for
an exponent does not end. -/
def formatFinite (culture : Culture) (format : Text) (n : Number) :
    Option (Except FormatFault Text) :=
  match standard? format with
  | some (letter, precision) => some (formatStandard culture n letter precision)
  | none => (custom? culture format n).map .ok

/-- Writes a number. What is not finite is written the same in every format. -/
def format (culture : Culture) (format : Text) : Number → Option (Except FormatFault Text)
  | float .nan => some (.ok "NaN")
  | float (.infinite negative) => some (.ok (withSign negative "∞"))
  | n => formatFinite culture format n

end Phrasebook.Number
