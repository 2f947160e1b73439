import Phrasebook.Json.Basic
import Phrasebook.Binary64.Digits

/-!
# Compact JSON text
-/

namespace Phrasebook.Json

/-- Floating point numbers are positional from `1e-5` to below `1e16`. -/
def floatStyle : Binary64.Style := ⟨.even, -5, 16, true⟩

/-- The hexadecimal digit, in lower case, with the given value. -/
def hexDigit (n : Nat) : Char := (Nat.digitChar n)

def escapeChar (c : Char) : Text :=
  if c = '"' then "\\\""
  else if c = '\\' then "\\\\"
  else if c = '\x08' then "\\b"
  else if c = '\x0c' then "\\f"
  else if c = '\n' then "\\n"
  else if c = '\r' then "\\r"
  else if c = '\t' then "\\t"
  else if c.toNat < 32 then "\\u00" ++ [hexDigit (c.toNat / 16), hexDigit (c.toNat % 16)]
  else [c]

def quote (s : Text) : Text :=
  '"' :: (s.flatMap escapeChar ++ ['"'])

mutual

/-- The text of a value without white space. -/
def text : Json → Text
  | .null => "null"
  | .bool true => "true"
  | .bool false => "false"
  | .integer i => integerText i.val
  | .float x => x.text floatStyle
  | .string s => quote s
  | .array items => '[' :: (itemsText items ++ [']'])
  | .object fields => '\x7b' :: (fieldsText fields ++ ['\x7d'])

def itemsText : List Json → Text
  | [] => []
  | [item] => item.text
  | item :: items => item.text ++ ',' :: itemsText items

def fieldsText : List (Text × Json) → Text
  | [] => []
  | [(key, value)] => quote key ++ ':' :: value.text
  | (key, value) :: fields => quote key ++ ':' :: (value.text ++ ',' :: fieldsText fields)

end

/-! ## Indented text -/

def lineBreak (width depth : Nat) : Text := '\n' :: List.replicate (width * depth) ' '

mutual

/-- The text of a value with every item and field on a line of its own, `width` further in than the
line of its container. -/
def indentedText (width depth : Nat) : Json → Text
  | .array (item :: items) =>
    '[' :: (indentedItems width (depth + 1) (item :: items) ++ lineBreak width depth ++ [']'])
  | .object (field :: fields) =>
    '\x7b' :: (indentedFields width (depth + 1) (field :: fields) ++ lineBreak width depth ++
      ['\x7d'])
  | value => value.text

def indentedItems (width depth : Nat) : List Json → Text
  | [] => []
  | [item] => lineBreak width depth ++ indentedText width depth item
  | item :: items =>
    lineBreak width depth ++ indentedText width depth item ++ ',' :: indentedItems width depth items

def indentedFields (width depth : Nat) : List (Text × Json) → Text
  | [] => []
  | [(key, value)] =>
    lineBreak width depth ++ quote key ++ ':' :: ' ' :: indentedText width depth value
  | (key, value) :: fields =>
    lineBreak width depth ++ quote key ++ ':' :: ' ' :: (indentedText width depth value ++
      ',' :: indentedFields width depth fields)

end

end Phrasebook.Json
