import Phrasebook.Script.Arguments
import Phrasebook.Script.Value.Json
import Phrasebook.Text.Case

/-!
# Filters that make a text

All but a few of them take the text of any value.
-/

namespace Phrasebook.Script

/-- What makes a value from a value and arguments. -/
abbrev Filter := Value → Arguments → Except Fault Value

namespace Filter

/-- The filter that applies `f` to a text and takes no arguments. -/
def ofText (f : Text → Text) : Filter := fun v args => do
  Arguments.atMost 0 args.all
  return .ofText (f v.text)

/-- Whether a character is an ASCII character other than a letter, a digit, a blank or a control. -/
def isAsciiSign (c : Char) : Bool := 0x20 < c.toNat && c.toNat < 0x7F && !c.isAlphanum

/-- Every word with a capital first letter and small others; words end at blanks and signs. -/
def titleFrom : (inWord : Bool) → Text → Text
  | _, [] => []
  | inWord, c :: s =>
    if isAsciiSign c || Text.isBlank c then c :: titleFrom false s
    else (if inWord then Text.lowerChar c else Text.upperChar c) ++ titleFrom true s

/-- The first letter capital and all others small. -/
def capitalize : Text → Text
  | [] => []
  | c :: s => Text.upperChar c ++ Text.lower s

/-- A text without the characters of a set, or without white space, at its ends. -/
def trim : Filter := fun v args => do
  let set ← optional Value.asText args.all[0]?
  Arguments.atMost 1 args.all
  return .ofText (match set with
    | some set => Text.dropEndWhile (List.elem · set) (v.text.dropWhile (List.elem · set))
    | none => Text.trim v.text)

def replace : Filter := fun v args => do
  let part ← required Value.asText args.all[0]?
  let replacement ← required Value.asText args.all[1]?
  Arguments.atMost 2 args.all
  return .ofText (Text.replaceAll part replacement v.text)

def pieceLimit (cuts : Option Int) : Option Nat :=
  cuts.bind fun n => if 0 ≤ n then some (n.toNat + 1) else none

/-- The pieces of a text between separators, or its words. -/
def split : Filter := fun v args => do
  let separator ← optional Value.asText args.all[0]?
  let limit := pieceLimit (← optional Value.asInt args.all[1]?)
  Arguments.atMost 2 args.all
  let pieces :=
    match separator, limit with
    | none, none => Text.words v.text
    | none, some limit => Text.wordsAtMost limit v.text
    | some separator, none => Text.pieces separator v.text
    | some separator, some limit => Text.piecesAt separator limit v.text
  return .stream (pieces.map .ofText)

def lines : Filter := fun v args => do
  Arguments.atMost 0 args.all
  return .list ((Text.lines v.text).map .ofText)

def dropLineBreak (s : Text) : Text :=
  let s := if s.getLast? = some '\n' then s.dropLast else s
  if s.getLast? = some '\r' then s.dropLast else s

/-- Every line of a text further in; the first one and empty ones only on demand. -/
def indent : Filter := fun v args => do
  let width ← required Value.asCount args.all[0]?
  let first ← optional Value.asBool args.all[1]?
  let blank ← optional Value.asBool args.all[2]?
  Arguments.atMost 3 args.all
  let margin := List.replicate width ' '
  let shifted (line : Text) : Text :=
    if line.isEmpty && !blank.getD false then line else margin ++ line
  let lines :=
    match Text.splitOn '\n' (dropLineBreak v.text), first.getD false with
    | line :: lines, false => line :: lines.map shifted
    | lines, _ => lines.map shifted
  return .ofText (dropLineBreak (lines.flatMap (· ++ ['\n'])))

/-! ## Markup and addresses -/

def escapeChar (c : Char) : Text :=
  match c with
  | '<' => "&lt;"
  | '>' => "&gt;"
  | '&' => "&amp;"
  | '"' => "&quot;"
  | '\'' => "&#x27;"
  | '/' => "&#x2f;"
  | c => [c]

def escape : Filter := fun v args => do
  Arguments.atMost 0 args.all
  return match v with
    | .string s true => .string s true
    | .undefined | .none | .bool _ | .integer _ | .float _ => .string v.text true
    | v => .string (v.text.flatMap escapeChar) true

def safe : Filter := fun v args => do
  Arguments.atMost 0 args.all
  return .string v.text true

/-- The hexadecimal digit, in upper case, with the given value. -/
def hexDigit (n : Nat) : Char := (Nat.digitChar n).toUpper

/-- A character in an address: letters, digits and some signs stand as they are. -/
def percentChar (c : Char) : Text :=
  if c.isAlphanum || List.elem c ['/', '.', '-', '_'] then [c]
  else (String.utf8EncodeChar c).flatMap fun b =>
    ['%', hexDigit (b.toNat / 16), hexDigit (b.toNat % 16)]

def percentEncode (s : Text) : Text := s.flatMap percentChar

def queryField (key value : Value) : Text :=
  percentEncode key.text ++ '=' :: percentEncode value.text

/-- The fields of a query with a value, in their order. -/
def query (v : Value) (keys : List Value) : Text :=
  Text.join "&" (keys.filterMap fun key =>
    match v.item? key with
    | none | some .undefined | some .none => none
    | some value => some (queryField key value))

def urlencode : Filter := fun v args => do
  Arguments.atMost 0 args.all
  match v.kind with
  | .map => return .ofText (query v (← v.items))
  | .none => return .ofText []
  | _ => return .ofText (percentEncode v.text)

/-- A character of JSON text inside markup. -/
def markupChar (c : Char) : Text :=
  match c with
  | '<' => "\\u003c"
  | '>' => "\\u003e"
  | '&' => "\\u0026"
  | '\'' => "\\u0027"
  | c => [c]

/-- The width of the indentation that an argument asks for, if it does. -/
def indentWidth : Value → Except Fault Nat
  | .bool b => .ok (if b then 2 else 0)
  | v => v.asCount

def tojson : Filter := fun v args => do
  let width ← optional indentWidth (args.positional[0]?.or (args.named? "indent"))
  args.onlyNamed ["indent"]
  Arguments.atMost 1 args.positional
  match v.toJson? with
  | some value =>
    let text :=
      match width with
      | some width => value.indentedText width 0
      | none => value.text
    return .string (text.flatMap markupChar) true
  | none => .error .invalidOperation

def pprint : Filter := fun v args => do
  Arguments.atMost 0 args.all
  return .ofText (v.indentedText 0)

end Filter

end Phrasebook.Script
