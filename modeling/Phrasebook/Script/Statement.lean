import Phrasebook.Script.Expression

/-!
# Reading statements

A part of a template is read up to a tag that ends it. What may stand in it depends on the parts
around it: a loop can be left only from inside, and no block begins in a routine.
-/

namespace Phrasebook.Script

namespace Reader

/-! ## Targets of assignments -/

/-- Names with a meaning of their own, which cannot be assigned to. -/
def reservedNames : List String :=
  ["true", "True", "false", "False", "none", "None", "loop", "self"]

/-- A name that can be assigned to. -/
def freeName : Reader Text := do
  let s ← identifier
  if reservedNames.contains (String.ofList s) then throw .malformed else return s

/-- Whether a list of targets ends before a token. -/
def endsTargets : Token → Bool
  | .symbol .closeParen | .closeOutput | .closeTag => true
  | .name s => s == String.toList "in"
  | _ => false

/-- A single target: a name, or targets in parentheses. -/
def singleTarget (inner : Reader Target) : Reader Target := do
  if ← acceptSymbol .openParen then
    let target ← inner
    expectSymbol .closeParen
    return target
  else return .name (← freeName)

/-- The targets behind a comma, at most `size` of them. -/
def moreTargets (inner : Reader Target) : (size : Nat) → Reader (List Target)
  | 0 => pure []
  | size + 1 => do
    if ← acceptSymbol .comma then
      if ((← peek).map endsTargets).getD false then return []
      let target ← singleTarget inner
      return target :: (← moreTargets inner size)
    else return []

/-- One target, or several with commas between them, with at most `depth` parentheses in each
other. -/
def targetsWithin : (depth : Nat) → Reader Target
  | 0 => fail
  | depth + 1 => do
    if ((← peek).map endsTargets).getD false then return .unpack []
    let target ← singleTarget (targetsWithin depth)
    if (← peek) = some (.symbol .comma) then
      return .unpack (target :: (← moreTargets (targetsWithin depth) (← remaining)))
    else return target

def targets : Reader Target := do targetsWithin ((← remaining) + 1)

/-- `target` and the attributes behind it, at most `size` of them. -/
def attributesFrom : (size : Nat) → Expr → Target → Reader Target
  | 0, _, target => pure target
  | size + 1, e, target => do
    if ← acceptSymbol .dot then
      let name ← identifier
      attributesFrom size (.member e name) (.member e name)
    else return target

/-! ## Statements -/

/-- What a part of a template stands in. -/
structure Surroundings where
  inLoop : Bool
  inRoutine : Bool

/-- What reads the statements of a part, up to a tag that begins with one of the words. -/
abbrev PartReader := Surroundings → (stop : List String) → Reader (List Stmt)

/-- The rest of a tag, the part behind it, and the word of the tag that ends the part. -/
def partUntil (part : PartReader) (around : Surroundings) (word : String) :
    Reader (List Stmt) := do
  expect .closeTag
  let body ← part around [word]
  drop
  return body

def loopStatement (part : PartReader) (around : Surroundings) : Reader Stmt := do
  let target ← targets
  expect (.name "in")
  let source ← plainExpression
  let condition ← if ← acceptName "if" then some <$> expression else pure none
  let recursive ← acceptName "recursive"
  expect .closeTag
  let body ← part { around with inLoop := true } ["endfor", "else"]
  let otherwise ←
    if ← acceptName "else" then do
      expect .closeTag
      part { around with inLoop := true } ["endfor"]
    else pure []
  drop
  return .loop target source condition recursive body otherwise

/-- A choice with at most `size` conditions. -/
def choiceStatement (part : PartReader) (around : Surroundings) : (size : Nat) → Reader Stmt
  | 0 => fail
  | size + 1 => do
    let test ← expression
    expect .closeTag
    let yes ← part around ["endif", "else", "elif"]
    if ← acceptName "elif" then return .choose test yes [← choiceStatement part around size]
    else if ← acceptName "else" then return .choose test yes (← partUntil part around "endif")
    else
      drop
      return .choose test yes []

/-- The bindings of a part with names of its own, at most `size` of them. -/
def bindings : (size : Nat) → (first : Bool) → Reader (List (Target × Expr))
  | 0, _ => pure []
  | size + 1, first => do
    if (← peek) = some .closeTag then return []
    if !first then expectSymbol .comma
    let target ← singleTarget targets
    expectSymbol .assign
    let e ← expression
    return (target, e) :: (← bindings size false)

/-- Filters with bars between them, up to the end of the tag, at most `size` of them. -/
def filterCalls : (size : Nat) → (first : Bool) → Reader (List FilterCall)
  | 0, _ => fail
  | size + 1, first => do
    if (← peek) = some .closeTag then
      if first then throw .malformed else return []
    if !first then expectSymbol .pipe
    let name ← identifier
    let (args, named) ← optionalArguments (nested depthLimit)
    return ⟨name, args, named⟩ :: (← filterCalls size false)

def assignedValue (target : Target) : Reader Stmt := do
  expectSymbol .assign
  return .assign target (← expression)

/-- An assignment of a value, or of the text of a part. -/
def assignment (part : PartReader) (around : Surroundings) : Reader Stmt := do
  if ← acceptSymbol .openParen then
    let target ← targets
    expectSymbol .closeParen
    assignedValue target
  else
    let name ← freeName
    let target ← attributesFrom (← remaining) (.name name) (.name name)
    if ← acceptSymbol .pipe then
      let filters ← filterCalls ((← remaining) + 1) true
      return .capture target filters (← partUntil part around "endset")
    else if (← peek) = some .closeTag then
      return .capture target [] (← partUntil part around "endset")
    else assignedValue target

/-- The parameters of a routine up to the closing parenthesis, at most `size` of them. Behind the
first one with a default all others have to have one. -/
def parameters : (size : Nat) → (first inDefaults : Bool) → Reader (List Text × List Expr)
  | 0, _, _ => fail
  | size + 1, first, inDefaults => do
    if ← acceptSymbol .closeParen then return ([], [])
    if !first then
      expectSymbol .comma
      if ← acceptSymbol .closeParen then return ([], [])
    let name ← freeName
    if ← acceptSymbol .assign then
      let default ← expression
      let (params, defaults) ← parameters size false true
      return (name :: params, default :: defaults)
    else if inDefaults then fail
    else
      let (params, defaults) ← parameters size false false
      return (name :: params, defaults)

def routineStatement (part : PartReader) (around : Surroundings) : Reader Stmt := do
  let name ← identifier
  expectSymbol .openParen
  let (params, defaults) ← parameters ((← remaining) + 1) true false
  let body ← partUntil part { around with inLoop := false, inRoutine := true } "endmacro"
  return .routine name params defaults body

def blockStatement (part : PartReader) (around : Surroundings) : Reader Stmt := do
  if around.inRoutine then throw .malformed
  let name ← identifier
  let body ← partUntil part { around with inLoop := false } "endblock"
  match ← peek with
  | some (.name s) => if s = name then drop else throw .malformed
  | _ => pure ()
  return .block name body

/-- The words that say whether another template sees the names of this one; they do not matter. -/
def contextWords : Reader Unit := do
  if (← acceptName "with") || (← acceptName "without") then expect (.name "context")

/-- Another template whose text is put here. -/
def templateStatement : Reader Stmt := do
  let name ← expression
  contextWords
  let optional ← acceptName "ignore"
  if optional then
    expect (.name "missing")
    contextWords
  return .template name optional

/-- Another template that gets a name here. -/
def importStatement : Reader Stmt := do
  let name ← expression
  expect (.name "as")
  let _ ← freeName
  return .template name false

/-- Names of another template, each perhaps with another name for it, up to the end of the tag, at
most `size` of them. -/
def importedNames : (size : Nat) → (first : Bool) → Reader Unit
  | 0, _ => pure ()
  | size + 1, first => do
    if (← peek) ≠ some .closeTag then
      if !first then expectSymbol .comma
      if (← peek) ≠ some .closeTag then
        let _ ← freeName
        if ← acceptName "as" then
          let _ ← freeName
        importedNames size false

/-- Another template whose names can be used here. -/
def namesStatement : Reader Stmt := do
  let name ← expression
  expect (.name "import")
  importedNames ((← remaining) + 1) true
  return .template name false

/-- A call that is evaluated for its effect. -/
def callStatement : Reader Stmt := do
  match ← expression with
  | .call callee args named => return .perform (.call callee args named)
  | _ => throw .malformed

/-- The statement of a tag, behind the marker that opens it. -/
def statement (part : PartReader) (around : Surroundings) : Reader Stmt := do
  match String.ofList (← identifier) with
  | "for" => loopStatement part around
  | "if" => choiceStatement part around ((← remaining) + 1)
  | "set" => assignment part around
  | "with" =>
    let bound ← bindings (← remaining) true
    return .scoped bound (← partUntil part around "endwith")
  | "filter" =>
    let filters ← filterCalls ((← remaining) + 1) true
    return .filtered filters (← partUntil part around "endfilter")
  | "block" => blockStatement part around
  | "macro" => routineStatement part around
  | "include" => templateStatement
  | "import" => importStatement
  | "from" => namesStatement
  | "do" => callStatement
  | "extends" => return .template (← expression) false
  | "break" => if around.inLoop then return .leave else throw .malformed
  | "continue" => if around.inLoop then return .skip else throw .malformed
  | _ => throw .malformed

/-- The statements of a part, at most `size` of them. -/
def statementsFrom (single : Reader Stmt) (stop : List String) : (size : Nat) → Reader (List Stmt)
  | 0 => pure []
  | size + 1 => do
    match ← peek with
    | none => return []
    | some (.plain s) =>
      drop
      return .plain s :: (← statementsFrom single stop size)
    | some .openOutput =>
      drop
      let e ← expression
      expect .closeOutput
      return .output e :: (← statementsFrom single stop size)
    | some .openTag =>
      drop
      match ← peek with
      | some (.name s) =>
        if stop.contains (String.ofList s) then return []
        let stmt ← single
        expect .closeTag
        return stmt :: (← statementsFrom single stop size)
      | _ => fail
    | _ => fail

/-- The reader for parts with at most `depth` parts in each other. -/
def part : (depth : Nat) → PartReader
  | 0 => fun _ _ => fail
  | depth + 1 => fun around stop => do
    statementsFrom (statement (part depth) around) stop ((← remaining) + 1)

/-- How many parts a template can have in each other. -/
def partLimit : Nat := 150

def template : Reader (List Stmt) := part partLimit ⟨false, false⟩ []

end Reader

/-! ## Templates -/

mutual

/-- The blocks in a statement, with their names. -/
def Stmt.blocks : Stmt → List (Text × List Stmt)
  | .loop _ _ _ _ body otherwise => blocksIn body ++ blocksIn otherwise
  | .choose _ yes no => blocksIn yes ++ blocksIn no
  | .capture _ _ body => blocksIn body
  | .scoped _ body => blocksIn body
  | .filtered _ body => blocksIn body
  | .block name body => (name, body) :: blocksIn body
  | .routine _ _ _ body => blocksIn body
  | _ => []

def blocksIn : List Stmt → List (Text × List Stmt)
  | [] => []
  | s :: stmts => s.blocks ++ blocksIn stmts

end

/-- The statements of a template. No two of its blocks have the same name. -/
def statementsOf (template : Text) : Except Fault (List Stmt) := do
  let (stmts, _) ← Reader.template (Token.ofTemplate template)
  if ((blocksIn stmts).map Prod.fst).Nodup then return stmts else throw .malformed

end Phrasebook.Script
