import Phrasebook.Text.Basic

/-!
# Why a value cannot be formatted
-/

namespace Phrasebook

/-- What is wrong with a format for a value. -/
inductive FormatFault
  | precisionOutOfRange
  | integersOnly
  | unknownNumberLetter (c : Char)
  | unknownDateLetter (c : Char)
  | tooManyFractionDigits
deriving DecidableEq, Repr

/-- A format together with what is wrong with it. -/
structure FormatError where
  format : Text
  fault : FormatFault
deriving DecidableEq, Repr

namespace FormatFault

def message : FormatFault → Text
  | precisionOutOfRange => "precision out of range"
  | integersOnly => "this specifier only applies to integers"
  | unknownNumberLetter c => "unknown format specifier '" ++ [c, '\'']
  | unknownDateLetter c => "unknown date format specifier '" ++ [c, '\'']
  | tooManyFractionDigits => "at most seven fraction digits"

end FormatFault

def FormatError.message (e : FormatError) : Text :=
  "Cannot format value with '" ++ e.format ++ "': " ++ e.fault.message ++ "."

end Phrasebook
