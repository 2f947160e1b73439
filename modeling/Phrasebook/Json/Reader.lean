import Phrasebook.Binary64.Arithmetic
import Phrasebook.Decimal.Digits
import Phrasebook.Json.Basic

/-!
# Reading JSON text

Reading is strict and stops at the first fault, which says whether the text ended too early. Every
reader takes the text from its own first character on and returns what it leaves.
-/

namespace Phrasebook.Json

/-- Why text is not read as a value: it ends too early, it is not JSON, or it is JSON of another
shape than the one asked for. -/
inductive Fault
  | ended
  | malformed
  | shape
deriving DecidableEq, Repr

def isSpace (c : Char) : Bool :=
  c == ' ' || c == '\t' || c == '\n' || c == '\r'

def skipSpace (s : Text) : Text := s.dropWhile isSpace

/-- How many arrays and objects may stand inside each other. -/
def depthLimit : Nat := 127

/-- Reads the rest of a word such as `null`. -/
def readWord (value : Json) : Text → Text → Except Fault (Json × Text)
  | [], s => .ok (value, s)
  | _ :: _, [] => .error .ended
  | c :: word, d :: s => if c = d then readWord value word s else .error .malformed

/-! ## Numbers -/

/-- The number whose digits are those of `n` and as many of a row as 64 bits hold, and the count of
the latter. -/
def keepDigits (n : Nat) : Text → Nat × Nat
  | [] => (n, 0)
  | c :: row =>
    let next := 10 * n + digitValue c
    if next < 2 ^ 64 then
      let (n, count) := keepDigits next row
      (n, count + 1)
    else (n, 0)

/-- The number nearest to a power of ten. -/
def nearestPower (e : Nat) : Binary64 := .ofRatio false (10 ^ e) 1

/-- The greatest power of ten that a significand is multiplied or divided by. -/
def powerLimit : Nat := 308

/-- Divides by the greatest power `count` times, or until nothing is left. -/
def divideRepeatedly : (count : Nat) → Binary64 → Binary64
  | 0, x => x
  | count + 1, x =>
    if x.isZero then x else divideRepeatedly count (x.div (nearestPower powerLimit))

/-- The product of a significand and a power of ten, every power and every step rounded. So it need
not be the number nearest to the product. -/
def scaleByPower (x : Binary64) (exponent : Int) : Binary64 :=
  if 0 ≤ exponent then
    if exponent ≤ powerLimit then x.mul (nearestPower exponent.natAbs)
    else if x.isZero then x
    else .infinite false
  else
    let count := (exponent.natAbs - 1) / powerLimit
    (divideRepeatedly count x).div (nearestPower (exponent.natAbs - count * powerLimit))

/-- A number with a fraction or an exponent, or beyond 64 bits. -/
def decimal (negative : Bool) (n : Nat) (exponent : Int) : Except Fault Json :=
  match scaleByPower (.ofInt n) exponent with
  | .finite x => .ok (.float ⟨negative, x.magnitude⟩)
  | _ => .error .malformed

/-- A number without fraction and exponent, whose digits 64 bits hold. -/
def wholeNumber (negative : Bool) (n : Nat) : Except Fault Json :=
  if negative ∧ n = 0 then decimal true 0 0
  else
    match Integer.ofInt? (if negative then -(n : Int) else n) with
    | some i => .ok (.integer i)
    | none => decimal negative n 0

/-- The number of these parts. Digits that 64 bits do not hold are left out. -/
def ofParts (negative : Bool) (whole : Text) (fraction : Option Text) (exponent : Option Int) :
    Except Fault Json :=
  let (n, count) := keepDigits 0 whole
  if fraction.isNone ∧ exponent.isNone ∧ count = whole.length then wholeNumber negative n
  else
    let (n, decimals) := keepDigits n (fraction.getD [])
    decimal negative n (exponent.getD 0 + (whole.length - count : Nat) - decimals)

/-- The digits that the text begins with; there has to be one. -/
def readDigits (s : Text) : Except Fault (Text × Text) :=
  match s with
  | [] => .error .ended
  | c :: _ =>
    if c.isDigit then .ok (s.takeWhile Char.isDigit, s.dropWhile Char.isDigit)
    else .error .malformed

def readExponent (s : Text) : Except Fault (Int × Text) :=
  let (negative, s) :=
    match s with
    | '+' :: s => (false, s)
    | '-' :: s => (true, s)
    | s => (false, s)
  (readDigits s).map fun (exponent, s) =>
    (if negative then -(valueOf exponent : Int) else valueOf exponent, s)

/-- What may follow the integer digits of a number. -/
def readNumberTail (negative : Bool) (whole : Text) (s : Text) : Except Fault (Json × Text) := do
  let (fraction, s) ←
    match s with
    | '.' :: s => (readDigits s).map fun (fraction, s) => (some fraction, s)
    | s => .ok (none, s)
  let (exponent, s) ←
    match s with
    | 'e' :: s | 'E' :: s => (readExponent s).map fun (e, s) => (some e, s)
    | s => .ok (none, s)
  return (← ofParts negative whole fraction exponent, s)

/-- A number after its minus sign; no other number than zero begins with a zero. -/
def readNumber (negative : Bool) (s : Text) : Except Fault (Json × Text) := do
  match s with
  | '0' :: c :: s =>
    if c.isDigit then .error .malformed else readNumberTail negative ['0'] (c :: s)
  | s =>
    let (whole, s) ← readDigits s
    readNumberTail negative whole s

/-! ## Strings -/

def readHex (s : Text) : Except Fault (Nat × Text) :=
  match s with
  | a :: b :: c :: d :: rest =>
    match Text.natural? 16 [a, b, c, d] with
    | some n => .ok (n, rest)
    | none => .error .malformed
  | _ => if 4 ≤ Text.byteSize s then .error .malformed else .error .ended

/-- The character that a single letter after a backslash stands for. -/
def escaped? : Char → Option Char
  | '"' => some '"'
  | '\\' => some '\\'
  | '/' => some '/'
  | 'b' => some '\x08'
  | 'f' => some '\x0c'
  | 'n' => some '\n'
  | 'r' => some '\r'
  | 't' => some '\t'
  | _ => none

/-- The second half of a surrogate pair whose first half is `high`. -/
def readLowSurrogate (high : Nat) (s : Text) : Except Fault (Char × Text) :=
  match s with
  | [] => .error .ended
  | '\\' :: [] => .error .ended
  | '\\' :: 'u' :: s => do
    let (low, s) ← readHex s
    if 0xDC00 ≤ low ∧ low ≤ 0xDFFF then
      .ok (Char.ofNat (0x10000 + (high - 0xD800) * 0x400 + (low - 0xDC00)), s)
    else .error .malformed
  | _ => .error .malformed

/-- The character of an escape, after its backslash. -/
def readEscape (s : Text) : Except Fault (Char × Text) :=
  match s with
  | [] => .error .ended
  | 'u' :: s => do
    let (n, s) ← readHex s
    if 0xDC00 ≤ n ∧ n ≤ 0xDFFF then .error .malformed
    else if 0xD800 ≤ n ∧ n ≤ 0xDBFF then readLowSurrogate n s
    else .ok (Char.ofNat n, s)
  | c :: s =>
    match escaped? c with
    | some d => .ok (d, s)
    | none => .error .malformed

/-- The rest of a string literal, of at most `size` characters. -/
def readStringTail : (size : Nat) → Text → Except Fault (Text × Text)
  | 0, _ => .error .ended
  | _ + 1, [] => .error .ended
  | size + 1, c :: s =>
    if c = '"' then .ok ([], s)
    else if c = '\\' then do
      let (d, s) ← readEscape s
      let (text, s) ← readStringTail size s
      return (d :: text, s)
    else if c.toNat < 32 then .error .malformed
    else do
      let (text, s) ← readStringTail size s
      return (c :: text, s)

/-- A string literal after its opening quote. -/
def readString (s : Text) : Except Fault (Text × Text) := readStringTail (s.length + 1) s

/-! ## Values -/

def readName (s : Text) : Except Fault (Text × Text) :=
  match s with
  | [] => .error .ended
  | '"' :: s => readString s
  | _ => .error .malformed

def readColon (s : Text) : Except Fault Text :=
  match skipSpace s with
  | ':' :: s => .ok s
  | [] => .error .ended
  | _ => .error .malformed

def readKey (s : Text) : Except Fault (Text × Text) := do
  let (key, s) ← readName s
  return (key, ← readColon s)

/-- What follows an item of a list or object that `close` ends: the next item or the end. -/
def readNext (close : Char) (s : Text) : Except Fault (Bool × Text) :=
  match skipSpace s with
  | [] => .error .ended
  | c :: s =>
    if c = close then .ok (false, s)
    else if c = ',' then .ok (true, skipSpace s)
    else .error .malformed

/-- The items of an array that has at least one, with at most `size` items. -/
def readItems (value : Text → Except Fault (Json × Text)) :
    (size : Nat) → Text → Except Fault (List Json × Text)
  | 0, _ => .error .ended
  | size + 1, s => do
    let (item, s) ← value s
    let (more, s) ← readNext ']' s
    if more then do
      if s.head? = some ']' then .error .malformed
      let (items, s) ← readItems value size s
      return (item :: items, s)
    else return ([item], s)

/-- The fields of an object that has at least one, with at most `size` fields. -/
def readFields (value : Text → Except Fault (Json × Text)) :
    (size : Nat) → List (Text × Json) → Text → Except Fault (List (Text × Json) × Text)
  | 0, _, _ => .error .ended
  | size + 1, fields, s => do
    let (key, s) ← readKey s
    let (item, s) ← value s
    let (more, s) ← readNext '\x7d' s
    let fields := putField key item fields
    if more then readFields value size fields s else return (fields, s)

/-- A value with at most `depth` arrays and objects inside each other. -/
def readValue (depth : Nat) (s : Text) : Except Fault (Json × Text) :=
  match skipSpace s with
  | [] => .error .ended
  | 'n' :: s => readWord .null "ull" s
  | 't' :: s => readWord (.bool true) "rue" s
  | 'f' :: s => readWord (.bool false) "alse" s
  | '-' :: s => readNumber true s
  | '"' :: s => (readString s).map fun (text, s) => (.string text, s)
  | '[' :: s =>
    match depth with
    | 0 => .error .malformed
    | depth + 1 =>
      match skipSpace s with
      | [] => .error .ended
      | ']' :: s => .ok (.array [], s)
      | s => (readItems (readValue depth) s.length s).map fun (items, s) => (.array items, s)
  | '\x7b' :: s =>
    match depth with
    | 0 => .error .malformed
    | depth + 1 =>
      match skipSpace s with
      | [] => .error .ended
      | '\x7d' :: s => .ok (.object [], s)
      | s =>
        (readFields (readValue depth) s.length [] s).map fun (fields, s) => (.object fields, s)
  | c :: s => if c.isDigit then readNumber false (c :: s) else .error .malformed

/-- The value that a text holds, with nothing but white space around it. -/
def parse (s : Text) : Except Fault Json := do
  let (value, s) ← readValue depthLimit s
  match skipSpace s with
  | [] => .ok value
  | _ => .error .malformed

end Phrasebook.Json
