import Phrasebook.Yaml.Basic
import Phrasebook.Yaml.Scalar

/-!
# Reading YAML text

A document is a scalar, or mappings and sequences, in brackets or by indentation. Directives,
anchors, tags, block scalars and keys marked by `?` are not read.

The readers return what they read and the place behind it. Their `size` bounds the steps; every
step passes over a character, apart from at most three between two characters.
-/

namespace Phrasebook.Yaml

/-- The greatest distance between the beginning of a key and its colon. -/
def keyLimit : Nat := 1024

/-- Whether a colon at `colon` can belong to a key that begins at `start`. -/
def reaches (start colon : Cursor) : Bool :=
  start.line == colon.line && start.rest.length ≤ colon.rest.length + keyLimit

/-- A scalar between brackets, or in a text that is indented. -/
def readScalar (inBrackets : Bool) (margin : Nat) (c : Cursor) : Option (Yaml × Cursor) :=
  match c.rest with
  | '"' :: _ | '\'' :: _ => do
    let (s, next) ← readQuoted c
    return (.text s, next)
  | rest =>
    if beginsPlain inBrackets rest then do
      let (s, next) ← readPlain inBrackets margin c
      return (← ofPlain? s, next)
    else none

/-! ## Between brackets -/

mutual

def readBracketed : (size : Nat) → Cursor → Option (Yaml × Cursor)
  | 0, _ => none
  | size + 1, c =>
    if c.atMark then none
    else
      match c.rest with
      | '[' :: _ => do
        let (items, next) ← readItems size ((c.advance 1).skip true)
        return (.sequence items, next)
      | '\x7b' :: _ => do
        let (fields, next) ← readFields size ((c.advance 1).skip true)
        return (.mapping fields, next)
      | _ => readScalar true 0 c

/-- A node and the value behind its colon, if there is a colon, and the next place at which
something is written. -/
def readPair : (size : Nat) → Cursor → Option ((Yaml × Option Yaml) × Cursor)
  | 0, _ => none
  | size + 1, c => do
    let (key, next) ← readBracketed size c
    let colon := next.skip true
    match colon.rest with
    | ':' :: _ =>
      let value := (colon.advance 1).skip true
      if !reaches c colon then none
      else
        match value.rest with
        | ',' :: _ | ']' :: _ | '\x7d' :: _ => return ((key, some .nothing), value)
        | _ =>
          let (node, next) ← readBracketed size value
          return ((key, some node), next.skip true)
    | _ => return ((key, none), colon)

/-- The items of a sequence up to its closing bracket. -/
def readItems : (size : Nat) → Cursor → Option (List Yaml × Cursor)
  | 0, _ => none
  | size + 1, c =>
    match c.rest with
    | ']' :: _ => some ([], c.advance 1)
    | _ => do
      let ((node, value), next) ← readPair size c
      let item := match value with
        | some value => .mapping [(node, value)]
        | none => node
      match next.rest with
      | ',' :: _ =>
        let (items, next) ← readItems size ((next.advance 1).skip true)
        return (item :: items, next)
      | ']' :: _ => return ([item], next.advance 1)
      | _ => none

/-- The fields of a mapping up to its closing brace; one without a colon has no value. -/
def readFields : (size : Nat) → Cursor → Option (List (Yaml × Yaml) × Cursor)
  | 0, _ => none
  | size + 1, c =>
    match c.rest with
    | '\x7d' :: _ => some ([], c.advance 1)
    | _ => do
      let ((key, value), next) ← readPair size c
      let field := (key, value.getD .nothing)
      match next.rest with
      | ',' :: _ =>
        let (fields, next) ← readFields size ((next.advance 1).skip true)
        return (field :: fields, next)
      | '\x7d' :: _ => return ([field], next.advance 1)
      | _ => none

end

/-! ## By indentation -/

/-- Whether `mark` stands here as a word of its own. -/
def isIndicator (mark : Char) : Text → Bool
  | [] => false
  | c :: s => c == mark && atBlank s

/-- A scalar, or a node in brackets, and the next place at which something is written. -/
def readInline (size margin : Nat) (c : Cursor) : Option (Yaml × Cursor) := do
  let (node, next) ← match c.rest with
    | '[' :: _ | '\x7b' :: _ => readBracketed size c
    | _ => readScalar false margin c
  return (node, next.skip false)

mutual

/-- The node at a place, whose lines begin at `margin` or further in. -/
def readNode : (size : Nat) → (margin : Nat) → Cursor → Option (Yaml × Cursor)
  | 0, _, _ => none
  | size + 1, margin, c =>
    if isIndicator '-' c.rest then
      if c.isFresh then do
        let (items, next) ← readSequence size c.column c
        return (.sequence items, next)
      else none
    else do
      let (node, next) ← readInline size margin c
      if isIndicator ':' next.rest then
        if c.isFresh && reaches c next then do
          let (fields, next) ← readMapping size c.column node next
          return (.mapping fields, next)
        else none
      else return (node, next)

/-- The node that belongs to the mark before `c`, which stands in a mapping or sequence at `column`.
In a mapping the items of a sequence may stand below their key. -/
def readValue :
    (size : Nat) → (column : Nat) → (inMapping : Bool) → Cursor → Option (Yaml × Cursor)
  | 0, _, _, _ => none
  | size + 1, column, inMapping, c =>
    let value := c.skip false
    if value.atEnd then some (.nothing, value)
    else if column < value.column then readNode size (column + 1) value
    else if inMapping && column == value.column && isIndicator '-' value.rest then do
      let (items, next) ← readSequence size column value
      return (.sequence items, next)
    else some (.nothing, value)

/-- The fields of a mapping at `column`, the first of which has this key and its colon at `c`. -/
def readMapping :
    (size : Nat) → (column : Nat) → Yaml → Cursor → Option (List (Yaml × Yaml) × Cursor)
  | 0, _, _, _ => none
  | size + 1, column, key, c => do
    let (value, next) ← readValue size column true (c.advance 1)
    if next.atEnd || next.column < column then return ([(key, value)], next)
    else if next.isFresh && next.column == column then
      let (following, colon) ← readInline size (column + 1) next
      if isIndicator ':' colon.rest && reaches next colon then
        let (fields, next) ← readMapping size column following colon
        return ((key, value) :: fields, next)
      else none
    else none

/-- The items of a sequence at `column`, the first of which has its mark at `c`. -/
def readSequence : (size : Nat) → (column : Nat) → Cursor → Option (List Yaml × Cursor)
  | 0, _, _ => none
  | size + 1, column, c => do
    let after : Cursor := { c.advance 1 with isFresh := true }
    let (item, next) ← readValue size column false after
    if !next.atEnd && next.isFresh && next.column == column && isIndicator '-' next.rest then
      let (items, next) ← readSequence size column next
      return (item :: items, next)
    else return ([item], next)

end

/-! ## Documents -/

/-- Whether nothing follows but blanks, comments and marks that end a document. -/
def isDone : (size : Nat) → Cursor → Bool
  | 0, _ => false
  | size + 1, c =>
    if c.rest.isEmpty then true
    else if c.atMark && beginsWithMark '.' c.rest then isDone size ((c.advance 3).skip false)
    else false

/-- The place at which the only document of a text begins, behind the mark for it. -/
def documentStart (s : Text) : Cursor :=
  let c := (Cursor.start s).skip false
  if c.atMark && beginsWithMark '-' c.rest then (c.advance 3).skip false else c

def parse (s : Text) : Option Yaml :=
  if !s.all isAllowed then none
  else
    let s := unifyBreaks ((Text.dropFront? ['\ufeff'] s).getD s)
    let size := 4 * s.length + 4
    let c := documentStart s
    if c.atEnd then if isDone size c then some .nothing else none
    else if c.column = 0 && c.rest.head? = some '%' then none
    else do
      let (node, next) ← readNode size 0 c
      if isDone size next then some node else none

end Phrasebook.Yaml
