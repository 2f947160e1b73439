import Phrasebook.Binary64.Reader
import Phrasebook.Decimal.Digits
import Phrasebook.Script.Fault
import Phrasebook.Text.Blank

/-!
# Tokens of a script template

A template is plain text with outputs `{{ … }}`, tags `{% … %}` and comments `{# … #}`. A minus sign
inside a marker removes the white space on its side of the plain text. Within brackets no closing
marker is looked for. Scanning stops at the first fault, which is the last token then.
-/

namespace Phrasebook.Script

inductive Symbol
  | plus | minus | times | divide | floorDivide | remainder | power
  | tilde | pipe | dot | comma | colon | assign
  | equal | notEqual | less | lessEqual | greater | greaterEqual
  | openParen | closeParen | openBracket | closeBracket | openBrace | closeBrace
deriving DecidableEq, Repr

inductive Token
  | plain (s : Text)
  | openOutput
  | closeOutput
  | openTag
  | closeTag
  | name (s : Text)
  | string (s : Text)
  | integer (n : Nat)
  | float (x : Binary64)
  | symbol (s : Symbol)
  | fault (f : Fault)
deriving DecidableEq

namespace Token

/-! ## Names, numbers and strings -/

def isNameStart (c : Char) : Bool := c.isAlpha || c == '_'

def isNamePart (c : Char) : Bool := c.isAlphanum || c == '_'

def isDigitPart (c : Char) : Bool := c.isDigit || c == '_'

/-- One past the greatest integer that can be written. -/
def integerLimit : Nat := 2 ^ 128

def wholeToken (base : Nat) (digits : Text) : Token :=
  match Text.natural? base digits with
  | some n => if n < integerLimit then integer n else fault .malformed
  | none => fault .malformed

/-- The digits of a row, if it does not end in an underscore. -/
def digitsOf? (row : Text) : Option Text :=
  if row.getLast? = some '_' then none else some (row.filter (· != '_'))

/-- The exponent part of a number after its `e`, and what follows it. -/
def exponentPart (s : Text) : Text × Text :=
  match s with
  | '+' :: s => ('+' :: s.takeWhile isDigitPart, s.dropWhile isDigitPart)
  | '-' :: s => ('-' :: s.takeWhile isDigitPart, s.dropWhile isDigitPart)
  | s => (s.takeWhile isDigitPart, s.dropWhile isDigitPart)

def exponentValue? (part : Text) : Option Int :=
  let (negative, row) :=
    match part with
    | '+' :: row => (false, row)
    | '-' :: row => (true, row)
    | row => (false, row)
  if row = [] then none
  else some (if negative then -(valueOf row : Int) else valueOf row)

/-- A number with these integer digits, fraction digits and exponent part. -/
def floatToken (whole fraction : Text) (exponent : Option Text) : Token :=
  let last := exponent.getD (if fraction = [] then whole else fraction)
  if last.getLast? = some '_' then fault .malformed
  else
    let whole := whole.filter (· != '_')
    let fraction := fraction.filter (· != '_')
    let digits := whole ++ fraction
    match (exponent.map fun part => exponentValue? (part.filter (· != '_'))).getD (some 0) with
    | some e =>
      float (Binary64.ofDecimal false (valueOf digits) digits.length (e - (fraction.length : Int)))
    | none => fault .malformed

/-- The decimal number at the front of a text, and what follows it. -/
def decimalNumber (s : Text) : Token × Text :=
  let whole := s.takeWhile isDigitPart
  let (fraction, s) :=
    match s.dropWhile isDigitPart with
    | '.' :: s => (some (s.takeWhile isDigitPart), s.dropWhile isDigitPart)
    | s => (none, s)
  let (exponent, s) :=
    match s with
    | 'e' :: s => (some (exponentPart s).1, (exponentPart s).2)
    | 'E' :: s => (some (exponentPart s).1, (exponentPart s).2)
    | s => (none, s)
  if fraction.isNone && exponent.isNone then
    (((digitsOf? whole).map (wholeToken 10)).getD (fault .malformed), s)
  else (floatToken whole (fraction.getD []) exponent, s)

/-- The number at the front of a text that begins with a digit, and what follows it. -/
def number (s : Text) : Token × Text :=
  let based (base : Nat) (isPart : Char → Bool) (s : Text) : Token × Text :=
    (((digitsOf? (s.takeWhile isPart)).map (wholeToken base)).getD (fault .malformed),
      s.dropWhile isPart)
  match s with
  | '0' :: c :: rest =>
    if c = 'b' ∨ c = 'B' then based 2 isDigitPart rest
    else if c = 'o' ∨ c = 'O' then based 8 isDigitPart rest
    else if c = 'x' ∨ c = 'X' then
      based 16 (fun c => isDigitPart c || ('a' ≤ c.toLower && c.toLower ≤ 'f')) rest
    else decimalNumber s
  | s => decimalNumber s

/-- The text of a string literal up to its closing quote, still escaped, and what follows it. -/
def quoted? (quote : Char) : Text → Option (Text × Text)
  | [] => none
  | '\\' :: [] => none
  | '\\' :: c :: s => (quoted? quote s).map fun (text, rest) => ('\\' :: c :: text, rest)
  | c :: s =>
    if c = quote then some ([], s)
    else (quoted? quote s).map fun (text, rest) => (c :: text, rest)

def escaped? : Char → Option Char
  | '"' => some '"'
  | '\\' => some '\\'
  | '/' => some '/'
  | '\'' => some '\''
  | 'b' => some '\x08'
  | 'f' => some '\x0c'
  | 'n' => some '\n'
  | 'r' => some '\r'
  | 't' => some '\t'
  | _ => none

/-- The code points that an escaped text stands for; those of escapes can be surrogates. -/
def codePoints? : Text → Option (List Nat)
  | [] => some []
  | '\\' :: 'u' :: a :: b :: c :: d :: s => do
    return (← Text.natural? 16 [a, b, c, d]) :: (← codePoints? s)
  | '\\' :: c :: s => do return (← escaped? c).toNat :: (← codePoints? s)
  | c :: s => do return c.toNat :: (← codePoints? s)

def isHighSurrogate (n : Nat) : Bool := 0xD800 ≤ n && n < 0xDC00

def isLowSurrogate (n : Nat) : Bool := 0xDC00 ≤ n && n < 0xE000

/-- The characters of code points in which surrogates stand in pairs only. -/
def pairSurrogates? : List Nat → Option Text
  | [] => some []
  | [n] => if isHighSurrogate n || isLowSurrogate n then none else some [Char.ofNat n]
  | m :: n :: rest =>
    if isHighSurrogate m then
      if isLowSurrogate n then do
        let c := Char.ofNat (0x10000 + (m - 0xD800) * 0x400 + (n - 0xDC00))
        return c :: (← pairSurrogates? rest)
      else none
    else if isLowSurrogate m then none
    else do return Char.ofNat m :: (← pairSurrogates? (n :: rest))

def unescape? (s : Text) : Option Text := (codePoints? s).bind pairSurrogates?

/-! ## Operators -/

def pair? : Char → Char → Option Symbol
  | '/', '/' => some .floorDivide
  | '*', '*' => some .power
  | '=', '=' => some .equal
  | '!', '=' => some .notEqual
  | '>', '=' => some .greaterEqual
  | '<', '=' => some .lessEqual
  | _, _ => none

def single? : Char → Option Symbol
  | '+' => some .plus
  | '-' => some .minus
  | '*' => some .times
  | '/' => some .divide
  | '%' => some .remainder
  | '.' => some .dot
  | ',' => some .comma
  | ':' => some .colon
  | '~' => some .tilde
  | '|' => some .pipe
  | '=' => some .assign
  | '>' => some .greater
  | '<' => some .less
  | '(' => some .openParen
  | ')' => some .closeParen
  | '[' => some .openBracket
  | ']' => some .closeBracket
  | '\x7b' => some .openBrace
  | '\x7d' => some .closeBrace
  | _ => none

/-- The token at the front of a text inside an output or a tag, and what follows it. -/
def next (s : Text) : Token × Text :=
  match s with
  | [] => (fault .malformed, [])
  | c :: rest =>
    match rest.head?.bind (pair? c) with
    | some s => (symbol s, rest.drop 1)
    | none =>
      match single? c with
      | some s => (symbol s, rest)
      | none =>
        if c = '\'' ∨ c = '"' then
          match quoted? c rest with
          | none => (fault .malformed, [])
          | some (text, rest) =>
            match unescape? text with
            | some text => (string text, rest)
            | none => (fault .badEscape, [])
        else if c.isDigit then number s
        else if isNameStart c then (name (s.takeWhile isNamePart), s.dropWhile isNamePart)
        else (fault .malformed, [])

/-! ## Markers -/

inductive Marker
  | output
  | tag
  | comment
deriving DecidableEq

/-- The text before the first marker that opens something, the marker, and what follows it. -/
def untilMarker : Text → Text × Option (Marker × Text)
  | [] => ([], none)
  | '\x7b' :: '\x7b' :: s => ([], some (.output, s))
  | '\x7b' :: '%' :: s => ([], some (.tag, s))
  | '\x7b' :: '#' :: s => ([], some (.comment, s))
  | c :: s => (c :: (untilMarker s).1, (untilMarker s).2)

/-- What follows the marker that closes an output or a tag, with the white space at its front
removed if the marker asks for that. -/
def afterClosing? (closing : Text) (s : Text) : Option Text :=
  match s with
  | '-' :: rest => (Text.dropFront? closing rest).map Text.trimStart
  | '+' :: rest => Text.dropFront? closing rest
  | s => Text.dropFront? closing s

/-- What follows a tag that consists of a single word, from behind the marker that opens it. -/
def afterWordTag? (word : Text) (s : Text) : Option Text := do
  let s ← Text.dropFront? word (s.dropWhile Text.isAsciiBlank)
  afterClosing? "%\x7d" (s.dropWhile Text.isAsciiBlank)

/-- The sign right behind a marker, which rules the white space before it. -/
def dropSign : Text → Text
  | '-' :: s => s
  | '+' :: s => s
  | s => s

/-- The text before a marker, without the white space at its end if the sign in `s` asks for
that. -/
def trimBefore (s : Text) (lead : Text) : Text :=
  match s with
  | '-' :: _ => Text.trimEnd lead
  | _ => lead

/-- The text before the tag that ends a raw part, and what stands behind the marker that opens that
tag. -/
def untilRawEnd? : Text → Option (Text × Text)
  | [] => none
  | '\x7b' :: '%' :: s =>
    if (afterWordTag? "endraw" (dropSign s)).isSome then some ([], s)
    else (untilRawEnd? s).map fun (text, tail) => ('\x7b' :: '%' :: text, tail)
  | c :: s => (untilRawEnd? s).map fun (text, tail) => (c :: text, tail)

/-- The text of a raw part, and what follows the tag that ends it. -/
def rawPart? (s : Text) : Option (Text × Text) := do
  let (text, tail) ← untilRawEnd? s
  return (trimBefore tail text, ← afterWordTag? "endraw" (dropSign tail))

/-- The text of a comment, and what follows it. -/
def comment? : Text → Option (Text × Text)
  | [] => none
  | '#' :: '\x7d' :: s => some ([], s)
  | c :: s => (comment? s).map fun (text, rest) => (c :: text, rest)

/-! ## Scanning -/

/-- Where a scan stands: in plain text, in an output or in a tag, with the number of brackets that
are open. -/
inductive Place
  | plain
  | output (depth : Int)
  | tag (depth : Int)

/-- The token for plain text, unless there is none. -/
def plainTokens (s : Text) : List Token := if s.isEmpty then [] else [plain s]

/-- How much deeper the brackets are after a token. -/
def nesting : Token → Int
  | symbol .openParen | symbol .openBracket | symbol .openBrace => 1
  | symbol .closeParen | symbol .closeBracket | symbol .closeBrace => -1
  | _ => 0

/-- What follows the end of an output or a tag, if it ends here. -/
def afterEnd? (closing : Text) (depth : Int) (s : Text) : Option Text :=
  if depth = 0 then afterClosing? closing s else none

/-- The tokens of a text, of which there are at most `size`. -/
def scan : (size : Nat) → Place → Text → List Token
  | 0, _, _ => []
  | size + 1, .plain, s =>
    match untilMarker s with
    | (lead, none) => plainTokens lead
    | (lead, some (.comment, s)) =>
      plainTokens (trimBefore s lead) ++
        match comment? (dropSign s) with
        | none => [fault .malformed]
        | some (text, rest) =>
          scan size .plain (if text.getLast? = some '-' then Text.trimStart rest else rest)
    | (lead, some (.output, s)) =>
      plainTokens (trimBefore s lead) ++ openOutput :: scan size (.output 0) (dropSign s)
    | (lead, some (.tag, s)) =>
      plainTokens (trimBefore s lead) ++
        match afterWordTag? "raw" (dropSign s) with
        | none => openTag :: scan size (.tag 0) (dropSign s)
        | some s =>
          match rawPart? s with
          | none => [fault .malformed]
          | some (text, rest) => plainTokens text ++ scan size .plain rest
  | size + 1, .output depth, s =>
    match s.dropWhile Text.isAsciiBlank with
    | [] => []
    | s =>
      match afterEnd? "\x7d\x7d" depth s with
      | some rest => closeOutput :: scan size .plain rest
      | none =>
        match next s with
        | (fault f, _) => [fault f]
        | (token, rest) => token :: scan size (.output (depth + token.nesting)) rest
  | size + 1, .tag depth, s =>
    match s.dropWhile Text.isAsciiBlank with
    | [] => []
    | s =>
      match afterEnd? "%\x7d" depth s with
      | some rest => closeTag :: scan size .plain rest
      | none =>
        match next s with
        | (fault f, _) => [fault f]
        | (token, rest) => token :: scan size (.tag (depth + token.nesting)) rest

/-- The text without `c` at its end. -/
def dropLast (c : Char) (s : Text) : Text := if s.getLast? = some c then s.dropLast else s

/-- The tokens of a template. One line break at its end does not count. -/
def ofTemplate (s : Text) : List Token :=
  let s := dropLast '\r' (dropLast '\n' s)
  scan (s.length + 1) .plain s

end Token

end Phrasebook.Script
