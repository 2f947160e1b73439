import Phrasebook.Format.Error

/-!
# What goes wrong in a script template

The first two faults are found before a template is rendered, the others while it is.
-/

namespace Phrasebook.Script

inductive Fault
  | malformed
  | badEscape
  | unknownFilter
  | unknownTest
  | unknownFunction
  | unknownMethod
  | unknownBlock
  /-- A value does not take part in the operation asked of it. -/
  | invalidOperation
  /-- A value does not take the format asked of it. -/
  | unformattable (e : FormatError)
  /-- An attribute of nothing is asked for. -/
  | undefinedValue
  | missingArgument
  | tooManyArguments
  | cannotUnpack
  | templateNotFound
  /-- Formatting a value does not end. Such a template has no answer, and no fault either. -/
  | endless
deriving DecidableEq, Repr

/-- The kind under which a fault is reported: a format that a value does not take makes an operation
invalid. -/
def Fault.kind : Fault → Fault
  | unformattable _ => invalidOperation
  | fault => fault

end Phrasebook.Script
