import Phrasebook.Binary64.Digits
import Phrasebook.Script.Value.Basic
import Phrasebook.Text.Printable

/-!
# The text of a value

A text inside a list or a map stands in quotes; on its own it stands as it is.
-/

namespace Phrasebook.Script

/-- Floating point numbers of their own are positional throughout. -/
def floatStyle : Binary64.Style := ⟨.up, -400, 400, false⟩

/-- Floating point numbers inside other values are positional from `1e-5` to below `1e16`. -/
def innerFloatStyle : Binary64.Style := ⟨.up, -5, 16, false⟩

def floatText (style : Binary64.Style) : Binary64 → Text
  | .nan => "NaN"
  | .infinite negative => if negative then "-inf" else "inf"
  | .finite x => x.text style

def quotedChar (c : Char) : Text :=
  if c = '"' then "\\\""
  else if c = '\\' then "\\\\"
  else if c = '\n' then "\\n"
  else if c = '\r' then "\\r"
  else if c = '\t' then "\\t"
  else if c = '\x00' then "\\0"
  else if Text.isPrintable c then [c]
  else "\\u\x7b" ++ Nat.toDigits 16 c.toNat ++ "\x7d"

def quoted (s : Text) : Text := '"' :: (s.flatMap quotedChar ++ ['"'])

def boolText (b : Bool) : Text := if b then "True" else "False"

def indentation (depth : Nat) : Text := '\n' :: List.replicate (4 * depth) ' '

mutual

/-- The text of a value of the model inside another value. -/
def jsonText : Json → Text
  | .null => "None"
  | .bool b => boolText b
  | .integer i => integerText i.val
  | .float x => floatText innerFloatStyle (.finite x)
  | .string s => quoted s
  | .array items => '[' :: (jsonItemsText items ++ [']'])
  | .object fields => '\x7b' :: (jsonFieldsText fields ++ ['\x7d'])

def jsonItemsText : List Json → Text
  | [] => []
  | [item] => jsonText item
  | item :: items => jsonText item ++ ',' :: ' ' :: jsonItemsText items

def jsonFieldsText : List (Text × Json) → Text
  | [] => []
  | [(key, value)] => quoted key ++ ':' :: ' ' :: jsonText value
  | (key, value) :: fields =>
    quoted key ++ ':' :: ' ' :: (jsonText value ++ ',' :: ' ' :: jsonFieldsText fields)

end

mutual

/-- The text of a value of the model with every item on a line of its own. -/
def jsonIndentedText (depth : Nat) : Json → Text
  | .array (item :: items) =>
    '[' :: (jsonIndentedItems (depth + 1) (item :: items) ++ indentation depth ++ [']'])
  | .object (field :: fields) =>
    '\x7b' :: (jsonIndentedFields (depth + 1) (field :: fields) ++ indentation depth ++ ['\x7d'])
  | value => jsonText value

def jsonIndentedItems (depth : Nat) : List Json → Text
  | [] => []
  | item :: items =>
    indentation depth ++ jsonIndentedText depth item ++ ',' :: jsonIndentedItems depth items

def jsonIndentedFields (depth : Nat) : List (Text × Json) → Text
  | [] => []
  | (key, value) :: fields =>
    indentation depth ++ quoted key ++ ':' :: ' ' :: (jsonIndentedText depth value ++
      ',' :: jsonIndentedFields depth fields)

end

namespace Value

mutual

def innerText : Value → Text
  | undefined => "undefined"
  | none => "None"
  | bool b => boolText b
  | integer i => integerText i
  | float x => floatText innerFloatStyle x
  | string s _ => quoted s
  | list items => '[' :: (itemsText items ++ [']'])
  | stream items => '[' :: (itemsText items ++ [']'])
  | map entries => '\x7b' :: (entriesText entries ++ ['\x7d'])
  | record _ fields => '\x7b' :: (jsonFieldsText fields ++ ['\x7d'])
  | group key items =>
    '[' :: (innerText key ++ ',' :: ' ' :: '[' :: (itemsText items ++ [']', ']']))
  | loop _ => "<loop>"
  | routine r _ => "<macro " ++ r.name ++ ">"
  | builtin .range => "<function range>"
  | builtin .dict => "<function dict>"

def itemsText : List Value → Text
  | [] => []
  | [item] => innerText item
  | item :: items => innerText item ++ ',' :: ' ' :: itemsText items

def entriesText : List (Value × Value) → Text
  | [] => []
  | [(key, value)] => innerText key ++ ':' :: ' ' :: innerText value
  | (key, value) :: entries =>
    innerText key ++ ':' :: ' ' :: (innerText value ++ ',' :: ' ' :: entriesText entries)

end

/-- The text of a value on its own. -/
def text : Value → Text
  | undefined => []
  | string s _ => s
  | float x => floatText floatStyle x
  | v => v.innerText

@[simp] theorem text_undefined : undefined.text = [] := rfl

@[simp] theorem text_ofText (s : Text) : (ofText s).text = s := rfl

/-! ## Indented text -/

mutual

/-- The text of a value inside another value with every item on a line of its own. -/
def indentedText (depth : Nat) : Value → Text
  | list (item :: items) =>
    '[' :: (indentedItems (depth + 1) (item :: items) ++ indentation depth ++ [']'])
  | stream (item :: items) =>
    '[' :: (indentedItems (depth + 1) (item :: items) ++ indentation depth ++ [']'])
  | map (entry :: entries) =>
    '\x7b' :: (indentedEntries (depth + 1) (entry :: entries) ++ indentation depth ++ ['\x7d'])
  | record _ (field :: fields) =>
    '\x7b' :: (jsonIndentedFields (depth + 1) (field :: fields) ++ indentation depth ++ ['\x7d'])
  | v => v.innerText

def indentedItems (depth : Nat) : List Value → Text
  | [] => []
  | item :: items =>
    indentation depth ++ indentedText depth item ++ ',' :: indentedItems depth items

def indentedEntries (depth : Nat) : List (Value × Value) → Text
  | [] => []
  | (key, value) :: entries =>
    indentation depth ++ key.innerText ++ ':' :: ' ' :: (indentedText depth value ++
      ',' :: indentedEntries depth entries)

end

end Value

end Phrasebook.Script
