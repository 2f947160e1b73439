import Phrasebook.Script.Value.Access

/-!
# Arguments of filters, tests and functions
-/

namespace Phrasebook.Script

/-- Arguments by position, and arguments by name. -/
structure Arguments where
  positional : List Value
  named : List (Text × Value)

namespace Arguments

/-- All arguments by position; those with a name form a map behind the others. -/
def all (args : Arguments) : List Value :=
  if args.named.isEmpty then args.positional
  else args.positional ++ [Value.mapOf (args.named.map fun (name, v) => (.ofText name, v))]

/-- The argument with a name; the last one counts. -/
def named? (args : Arguments) (name : Text) : Option Value :=
  args.named.reverse.lookup name

/-- Refuses arguments behind the first `limit`. -/
def atMost (limit : Nat) (args : List Value) : Except Fault Unit :=
  if args.length ≤ limit then .ok () else .error .tooManyArguments

/-- Refuses arguments with other names. -/
def onlyNamed (names : List String) (args : Arguments) : Except Fault Unit :=
  if args.named.all fun (name, _) => names.contains (String.ofList name) then .ok ()
  else .error .tooManyArguments

end Arguments

def required {α : Type} (read : Value → Except Fault α) : Option Value → Except Fault α
  | some v => read v
  | none => .error .missingArgument

/-- An argument that can be missing or nothing. -/
def optional {α : Type} (read : Value → Except Fault α) : Option Value → Except Fault (Option α)
  | none | some .undefined | some .none => .ok none
  | some v => some <$> read v

namespace Value

def asValue (v : Value) : Except Fault Value := .ok v

/-- The text of any value. -/
def asText (v : Value) : Except Fault Text := .ok v.text

/-- A value that is a text. -/
def asString : Value → Except Fault Text
  | string s _ => .ok s
  | _ => .error .invalidOperation

def asBool : Value → Except Fault Bool
  | bool b => .ok b
  | _ => .error .invalidOperation

def asInt (v : Value) : Except Fault Int :=
  match v.toInt64? with
  | some i => .ok i
  | Option.none => .error .invalidOperation

def asCount (v : Value) : Except Fault Nat :=
  match v.toInt64? with
  | some i => if 0 ≤ i then .ok i.toNat else .error .invalidOperation
  | Option.none => .error .invalidOperation

end Value

end Phrasebook.Script
