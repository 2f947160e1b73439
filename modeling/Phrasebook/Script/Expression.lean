import Phrasebook.Script.Token
import Phrasebook.Script.Tree

/-!
# Reading expressions

A reader takes tokens from the front of a list. From loose to tight the operators are the
conditional, `or`, `and`, `not`, comparisons, sums, `~`, products, powers and signs. Filters, tests,
attributes and subscripts come last and apply to what stands before them together with its sign.
-/

namespace Phrasebook.Script

/-- What reads a part of a template from its tokens. -/
abbrev Reader := StateT (List Token) (Except Fault)

namespace Reader

/-- The next token does not fit. A token that is itself a fault is the reason. -/
def fail {α : Type} : Reader α := fun tokens =>
  match tokens with
  | .fault f :: _ => .error f
  | _ => .error .malformed

def peek : Reader (Option Token) := fun tokens => .ok (tokens.head?, tokens)

/-- Takes the next token, whatever it is. -/
def drop : Reader Unit := fun tokens => .ok ((), tokens.tail)

/-- Takes a token if it is the next one. -/
def accept (token : Token) : Reader Bool := fun tokens =>
  match tokens with
  | [] => .ok (false, [])
  | t :: rest => if t = token then .ok (true, rest) else .ok (false, t :: rest)

/-- Takes a token, which has to be the next one. -/
def expect (token : Token) : Reader Unit := do
  if !(← accept token) then fail

def acceptSymbol (s : Symbol) : Reader Bool := accept (.symbol s)

def expectSymbol (s : Symbol) : Reader Unit := expect (.symbol s)

def acceptName (s : Text) : Reader Bool := accept (.name s)

def identifier : Reader Text := fun tokens =>
  match tokens with
  | .name s :: rest => .ok (s, rest)
  | tokens => fail tokens

def remaining : Reader Nat := fun tokens => .ok (tokens.length, tokens)

/-! ## Binary operators -/

/-- `left` and what operators of one rank add to it, at most `size` of them. -/
def chainFrom (operand : Reader Expr) (operator? : Token → Option BinaryOp) :
    (size : Nat) → Expr → Reader Expr
  | 0, left => pure left
  | size + 1, left => do
    match (← peek).bind operator? with
    | none => return left
    | some op =>
      drop
      chainFrom operand operator? size (.binary op left (← operand))

/-- Operands with operators of one rank between them, grouped from the left. -/
def chain (operator? : Token → Option BinaryOp) (operand : Reader Expr) : Reader Expr := do
  let left ← operand
  chainFrom operand operator? (← remaining) left

def orOperator? : Token → Option BinaryOp
  | .name s => if s = "or" then some .or else none
  | _ => none

def andOperator? : Token → Option BinaryOp
  | .name s => if s = "and" then some .and else none
  | _ => none

def sumOperator? : Token → Option BinaryOp
  | .symbol .plus => some .add
  | .symbol .minus => some .subtract
  | _ => none

def concatOperator? : Token → Option BinaryOp
  | .symbol .tilde => some .concat
  | _ => none

def productOperator? : Token → Option BinaryOp
  | .symbol .times => some .multiply
  | .symbol .divide => some .divide
  | .symbol .floorDivide => some .floorDivide
  | .symbol .remainder => some .remainder
  | _ => none

def powerOperator? : Token → Option BinaryOp
  | .symbol .power => some .power
  | _ => none

def compareOperator? : Token → Option BinaryOp
  | .symbol .equal => some .equal
  | .symbol .notEqual => some .notEqual
  | .symbol .less => some .less
  | .symbol .lessEqual => some .lessEqual
  | .symbol .greater => some .greater
  | .symbol .greaterEqual => some .greaterEqual
  | .name s => if s = "in" then some .within else none
  | _ => none

/-- `left` and the comparisons behind it, at most `size` of them. -/
def comparisonsFrom (operand : Reader Expr) : (size : Nat) → Expr → Reader Expr
  | 0, left => pure left
  | size + 1, left => do
    if ← acceptName "not" then
      expect (.name "in")
      comparisonsFrom operand size (.unary .not (.binary .within left (← operand)))
    else
      match (← peek).bind compareOperator? with
      | none => return left
      | some op =>
        drop
        comparisonsFrom operand size (.binary op left (← operand))

def comparisons (operand : Reader Expr) : Reader Expr := do
  let left ← operand
  comparisonsFrom operand (← remaining) left

/-- An operand behind any number of `not`, at most `size`. -/
def negations (operand : Reader Expr) : (size : Nat) → Reader Expr
  | 0 => operand
  | size + 1 => do
    if ← acceptName "not" then return .unary .not (← negations operand size) else operand

/-- An operand behind any number of minus signs, at most `size`. -/
def signs (operand : Reader Expr) : (size : Nat) → Reader Expr
  | 0 => operand
  | size + 1 => do
    if ← acceptSymbol .minus then return .unary .negate (← signs operand size) else operand

/-! ## Brackets -/

/-- The readers for what stands in brackets: any expression, and one that is no conditional unless
it is put in brackets. -/
structure Nested where
  any : Reader Expr
  plain : Reader Expr

/-- Items up to a closing bracket, at most `size` of them, with commas between and perhaps one
behind the last. -/
def itemsUntil {α : Type} (close : Symbol) (item : Reader α) :
    (size : Nat) → (first : Bool) → Reader (List α)
  | 0, _ => fail
  | size + 1, first => do
    if ← acceptSymbol close then return []
    if !first then
      expectSymbol .comma
      if ← acceptSymbol close then return []
    let i ← item
    return i :: (← itemsUntil close item size false)

def items {α : Type} (close : Symbol) (item : Reader α) : Reader (List α) := do
  itemsUntil close item ((← remaining) + 1) true

/-- The entry of a map: a key, a colon and a value. -/
def entry (nested : Nested) : Reader (Expr × Expr) := do
  let key ← nested.any
  expectSymbol .colon
  return (key, ← nested.any)

/-- What follows an opening parenthesis: one expression, or a list. -/
def group (nested : Nested) : Reader Expr := do
  if ← acceptSymbol .closeParen then return .list []
  let e ← nested.any
  if (← peek) = some (.symbol .comma) then
    return .list (e :: (← itemsUntil .closeParen nested.any ((← remaining) + 1) false))
  expectSymbol .closeParen
  return e

/-- An argument, with its name if it has one. -/
def argument (nested : Nested) : Reader (Option Text × Expr) := do
  match ← nested.any with
  | .name s =>
    if ← acceptSymbol .assign then return (some s, ← nested.plain) else return (none, .name s)
  | e => return (none, e)

def unnamed (args : List (Option Text × Expr)) : List Expr :=
  args.filterMap fun (name, e) => if name.isNone then some e else none

def named (args : List (Option Text × Expr)) : List (Text × Expr) :=
  args.filterMap fun (name, e) => name.map (·, e)

/-- Whether no argument without a name follows one with a name. -/
def isOrdered (args : List (Option Text × Expr)) : Bool :=
  (args.dropWhile (·.1.isNone)).all (·.1.isSome)

/-- What follows the opening parenthesis of a call. -/
def arguments (nested : Nested) : Reader (List Expr × List (Text × Expr)) := do
  let args ← items .closeParen (argument nested)
  if isOrdered args then return (unnamed args, named args) else fail

/-- The arguments of a filter or a test, if there are any. -/
def optionalArguments (nested : Nested) : Reader (List Expr × List (Text × Expr)) := do
  if ← acceptSymbol .openParen then arguments nested else return ([], [])

/-- An expression without operators. -/
def primary (nested : Nested) : Reader Expr := fun tokens =>
  match tokens with
  | .name s :: rest =>
    .ok (if s = "true" ∨ s = "True" then .literal (.bool true)
      else if s = "false" ∨ s = "False" then .literal (.bool false)
      else if s = "none" ∨ s = "None" then .literal .none
      else .name s, rest)
  | .string s :: rest => .ok (.literal (.string s), rest)
  | .integer n :: rest => .ok (.literal (.integer n), rest)
  | .float x :: rest => .ok (.literal (.float x), rest)
  | .symbol .openParen :: rest => group nested rest
  | .symbol .openBracket :: rest => (Expr.list <$> items .closeBracket nested.any) rest
  | .symbol .openBrace :: rest => (Expr.map <$> items .closeBrace (entry nested)) rest
  | tokens => fail tokens

/-- An expression, or the literal `none` if one of the symbols in `stop` comes next. -/
def noneAt (stop : List Symbol) (e : Reader Expr) : Reader Expr := do
  match ← peek with
  | some (.symbol s) => if stop.contains s then return .literal .none else e
  | _ => e

/-- What follows the opening bracket of a subscript of `e`. -/
def subscript (nested : Nested) (e : Expr) : Reader Expr := do
  let start ← noneAt [.colon] nested.any
  if ← acceptSymbol .colon then
    let stop ← noneAt [.closeBracket, .colon] nested.any
    let step ←
      if ← acceptSymbol .colon then noneAt [.closeBracket] nested.any
      else pure (.literal .none)
    expectSymbol .closeBracket
    return .slice e start stop step
  else
    expectSymbol .closeBracket
    return .item e start

/-- `e` and the attributes, subscripts and calls behind it, at most `size` of them. -/
def suffixesFrom (nested : Nested) : (size : Nat) → Expr → Reader Expr
  | 0, e => pure e
  | size + 1, e => do
    match ← peek with
    | some (.symbol .dot) =>
      drop
      suffixesFrom nested size (.member e (← identifier))
    | some (.symbol .openBracket) =>
      drop
      suffixesFrom nested size (← subscript nested e)
    | some (.symbol .openParen) =>
      drop
      let (args, named) ← arguments nested
      suffixesFrom nested size (.call e args named)
    | _ => return e

/-- A primary expression behind its signs, with what follows it. -/
def suffixed (nested : Nested) : Reader Expr := do
  let e ← signs (primary nested) (← remaining)
  suffixesFrom nested (← remaining) e

/-- Whether a token begins the argument of a test that has no parentheses. -/
def beginsArgument : Token → Bool
  | .name s => !(["and", "or", "else", "is"].contains (String.ofList s))
  | .string _ | .integer _ | .float _ => true
  | .symbol s => [Symbol.plus, .minus, .openBracket, .openBrace].contains s
  | _ => false

def testArguments (nested : Nested) : Reader (List Expr × List (Text × Expr)) := do
  match ← peek with
  | some token =>
    if beginsArgument token then return ([← suffixed nested], []) else optionalArguments nested
  | none => return ([], [])

/-- `e` and the filters and tests behind it, at most `size` of them. -/
def filtersFrom (nested : Nested) : (size : Nat) → Expr → Reader Expr
  | 0, e => pure e
  | size + 1, e => do
    if ← acceptSymbol .pipe then
      let name ← identifier
      let (args, named) ← optionalArguments nested
      filtersFrom nested size (.filter name e args named)
    else if ← acceptName "is" then
      let negated ← acceptName "not"
      let name ← identifier
      let (args, named) ← testArguments nested
      let e := Expr.test name e args named
      filtersFrom nested size (if negated then .unary .not e else e)
    else return e

def filtered (nested : Nested) : Reader Expr := do
  let e ← suffixed nested
  filtersFrom nested (← remaining) e

/-! ## Expressions -/

/-- An expression that is no conditional. -/
def disjunction (nested : Nested) : Reader Expr :=
  chain orOperator? (chain andOperator? (do
    negations
      (comparisons (chain sumOperator? (chain concatOperator? (chain productOperator?
        (chain powerOperator? (filtered nested))))))
      (← remaining)))

/-- `e` and the conditions behind it, at most `size` of them; an alternative can have its own. -/
def conditionsFrom (operand : Reader Expr) : (size : Nat) → Expr → Reader Expr
  | 0, e => pure e
  | size + 1, e => do
    if ← acceptName "if" then
      let test ← operand
      let no ←
        if ← acceptName "else" then do conditionsFrom operand size (← operand)
        else pure (.literal .undefined)
      conditionsFrom operand size (.conditional test e no)
    else return e

def conditional (operand : Reader Expr) : Reader Expr := do
  let e ← operand
  conditionsFrom operand (← remaining) e

/-- The readers for expressions with at most `depth` brackets in each other. -/
def nested : (depth : Nat) → Nested
  | 0 => ⟨fail, fail⟩
  | depth + 1 =>
    let operand := disjunction (nested depth)
    ⟨conditional operand, operand⟩

/-- How many brackets an expression can have in each other. -/
def depthLimit : Nat := 75

def expression : Reader Expr := (nested depthLimit).any

def plainExpression : Reader Expr := (nested depthLimit).plain

end Reader

end Phrasebook.Script
