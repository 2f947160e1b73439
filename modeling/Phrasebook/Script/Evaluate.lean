import Phrasebook.Script.Filter.Table
import Phrasebook.Script.Scope

/-!
# Evaluating expressions and statements

Evaluation follows the tree. What it needs beyond the tree is passed in: the model and the locale,
and how a routine or a loop is run again.
-/

namespace Phrasebook.Script

structure Setting where
  locale : Locale
  model : List (Text × Json)
  blocks : List (Text × List Stmt)

/-- What can be run from an expression. -/
inductive Callee
  | routine (r : Routine) (height : Nat)
  /-- A loop inside itself. -/
  | again (target : Target) (body : List Stmt) (depth : Nat) (items : List Value)
  | block (body : List Stmt)

/-- How a part of the template is run from an expression; its text is the value. -/
abbrev Invoke := Callee → Arguments → Run Value

/-! ## Names -/

def builtin? (name : Text) : Option Value :=
  match String.ofList name with
  | "range" => some (.builtin .range)
  | "dict" => some (.builtin .dict)
  | _ => none

/-- What a name means outside all scopes. -/
def Setting.global? (setting : Setting) (name : Text) : Option Value :=
  (Value.declared? setting.model name).or (builtin? name)

def Setting.lookup? (setting : Setting) (name : Text) : Run (Option Value) := fun scopes =>
  .ok ((Scope.lookup? name scopes).or (setting.global? name), scopes)

/-- The part of a value under a key. Loops are asked in their scopes. -/
def partOf (v key : Value) : Run Value := fun scopes =>
  match v, key with
  | .loop height, .string name _ =>
    .ok ((((Scope.loopAt? height scopes).bind (·.attribute? name)).getD .undefined), scopes)
  | v, key => Run.lift (v.item key) scopes

/-! ## Calls -/

/-- How many numbers a range can have. -/
def rangeLimit : Nat := 100000

/-- The numbers from `start` on to before `stop` in steps of `step`, which is not zero. -/
def rangeItems (start stop step : Int) : List Int :=
  let size :=
    if 0 < step then (stop - start + step - 1) / step else (start - stop - step - 1) / -step
  (List.range size.toNat).map fun i : Nat => start + step * (i : Int)

def range (args : Arguments) : Except Fault Value := do
  let first ← required Value.asInt args.all[0]?
  let second ← optional Value.asInt args.all[1]?
  let step := (← optional Value.asInt args.all[2]?).getD 1
  Arguments.atMost 3 args.all
  if step = 0 then .error .invalidOperation
  let (start, stop) :=
    match second with
    | some stop => (first, stop)
    | none => (0, first)
  if (rangeLimit : Int) < (stop - start) / step then .error .invalidOperation
  return .stream ((rangeItems start stop step).map .integer)

/-- A map of named arguments, put after the entries of another map. -/
def dict (args : Arguments) : Except Fault Value := do
  Arguments.atMost 1 args.positional
  let entries ←
    match args.positional with
    | [] | [.undefined] => pure []
    | v :: _ => Filter.entries v
  return Value.mapOf (entries ++ args.named.map fun (name, v) => (.ofText name, v))

def callValue (invoke : Invoke) (v : Value) (args : Arguments) : Run Value :=
  match v with
  | .routine r height => invoke (.routine r height) args
  | .builtin .range => Run.lift (range args)
  | .builtin .dict => Run.lift (dict args)
  | _ => throw .invalidOperation

def callLoop (height : Nat) (name : Text) (args : Arguments) : Run Value := do
  match Scope.loopAt? height (← get) with
  | none => throw .unknownMethod
  | some l =>
    match String.ofList name with
    | "cycle" => Run.lift (l.cycle args.all)
    | "changed" =>
      modify (Scope.changeLoop height fun l => { l with last := some args.all })
      return .bool (l.changed args.all)
    | _ => throw .unknownMethod

def callMember (invoke : Invoke) (v : Value) (name : Text) (args : Arguments) : Run Value :=
  match v with
  | .loop height => callLoop height name args
  | .map entries =>
    match Value.under? (.ofText name) entries with
    | some f => callValue invoke f args
    | none => throw .unknownMethod
  | .record path fields => callValue invoke (Value.property path fields name) args
  | _ => throw .unknownMethod

/-- Runs the innermost loop again on other items. -/
def callAgain (invoke : Invoke) (args : Arguments) : Run Value := do
  match args.all, Scope.innermostLoop? (← get) with
  | [v], some l =>
    match l.again with
    | some (target, body) =>
      invoke (.again target body (l.depth + 1) (← Run.lift v.items)) args
    | none => throw .invalidOperation
  | _, _ => throw .invalidOperation

def callName (setting : Setting) (invoke : Invoke) (name : Text) (args : Arguments) :
    Run Value := do
  match String.ofList name with
  | "super" => throw .invalidOperation
  | "loop" => callAgain invoke args
  | _ =>
    match ← setting.lookup? name with
    | some f => callValue invoke f args
    | none => throw .unknownFunction

def callBlock (setting : Setting) (invoke : Invoke) (name : Text) (args : Arguments) :
    Run Value :=
  match setting.blocks.lookup name with
  | some body => invoke (.block body) args
  | none => throw .unknownBlock

/-! ## Expressions -/

def Literal.value : Literal → Value
  | undefined => .undefined
  | none => .none
  | bool b => .bool b
  | integer n => .integer n
  | float x => .float x
  | string s => .ofText s

/-- Whether an expression names the template itself, whose attributes are its blocks. -/
def Expr.isSelf : Expr → Bool
  | .name s => s == String.toList "self"
  | _ => false

variable [LocaleData]

mutual

def evaluate (setting : Setting) (invoke : Invoke) : Expr → Run Value
  | .literal v => pure v.value
  | .name s => return (← setting.lookup? s).getD .undefined
  | .list items => return .list (← evaluateAll setting invoke items)
  | .map entries => return Value.mapOf (← evaluateEntries setting invoke entries)
  | .unary op e => do Run.lift (op.apply (← evaluate setting invoke e))
  | .binary .or left right => do
    let v ← evaluate setting invoke left
    if v.isTrue then return v else evaluate setting invoke right
  | .binary .and left right => do
    let v ← evaluate setting invoke left
    if v.isTrue then evaluate setting invoke right else return v
  | .binary op left right => do
    let v ← evaluate setting invoke left
    Run.lift (op.apply v (← evaluate setting invoke right))
  | .conditional test yes no => do
    let v ← evaluate setting invoke test
    if v.isTrue then evaluate setting invoke yes else evaluate setting invoke no
  | .member e name => do partOf (← evaluate setting invoke e) (.ofText name)
  | .item e key => do
    let v ← evaluate setting invoke e
    partOf v (← evaluate setting invoke key)
  | .slice e start stop step => do
    let v ← evaluate setting invoke e
    let start ← evaluate setting invoke start
    let stop ← evaluate setting invoke stop
    Run.lift (v.slice start stop (← evaluate setting invoke step))
  | .filter name e args named => do
    let v ← evaluate setting invoke e
    let args ← evaluateAll setting invoke args
    let named ← evaluateNamed setting invoke named
    Run.lift (Filter.apply setting.locale name v ⟨args, named⟩)
  | .test name e args named => do
    let v ← evaluate setting invoke e
    let args ← evaluateAll setting invoke args
    let named ← evaluateNamed setting invoke named
    return .bool (← Run.lift (Test.apply name v ⟨args, named⟩))
  | .call (.name f) args named => do
    let args ← evaluateAll setting invoke args
    let named ← evaluateNamed setting invoke named
    callName setting invoke f ⟨args, named⟩
  | .call (.member e f) args named => do
    if e.isSelf then callBlock setting invoke f ⟨[], []⟩
    else
      let v ← evaluate setting invoke e
      let args ← evaluateAll setting invoke args
      let named ← evaluateNamed setting invoke named
      callMember invoke v f ⟨args, named⟩
  | .call e args named => do
    let v ← evaluate setting invoke e
    let args ← evaluateAll setting invoke args
    let named ← evaluateNamed setting invoke named
    callValue invoke v ⟨args, named⟩

def evaluateAll (setting : Setting) (invoke : Invoke) : List Expr → Run (List Value)
  | [] => pure []
  | e :: es => do
    let v ← evaluate setting invoke e
    return v :: (← evaluateAll setting invoke es)

def evaluateNamed (setting : Setting) (invoke : Invoke) :
    List (Text × Expr) → Run (List (Text × Value))
  | [] => pure []
  | (name, e) :: es => do
    let v ← evaluate setting invoke e
    return (name, v) :: (← evaluateNamed setting invoke es)

def evaluateEntries (setting : Setting) (invoke : Invoke) :
    List (Expr × Expr) → Run (List (Value × Value))
  | [] => pure []
  | (key, e) :: es => do
    let key ← evaluate setting invoke key
    let v ← evaluate setting invoke e
    return (key, v) :: (← evaluateEntries setting invoke es)

end

/-! ## Assignments -/

mutual

/-- Assigns to a name or to several. Attributes cannot be assigned to, but what they belong to is
evaluated. -/
def assignTo (evaluate : Expr → Run Value) : Target → Value → Run Unit
  | .name s, v => modify (Scope.assign s v)
  | .member e _, _ => do
    let _ ← evaluate e
    throw .invalidOperation
  | .unpack targets, v =>
    match v.items? with
    | some items => assignAll evaluate targets items
    | none => throw .cannotUnpack

/-- Assigns values, as many as there are targets. -/
def assignAll (evaluate : Expr → Run Value) : List Target → List Value → Run Unit
  | [], [] => pure ()
  | target :: targets, v :: vs => do
    assignTo evaluate target v
    assignAll evaluate targets vs
  | _, _ => throw .cannotUnpack

end

/-! ## Statements -/

/-- Whether the statements behind one are run. -/
inductive Signal
  | next
  | leave
  | skip
deriving DecidableEq, Repr

def applyFilters (setting : Setting) (invoke : Invoke) : List FilterCall → Value → Run Value
  | [], v => pure v
  | f :: filters, v => do
    let args ← evaluateAll setting invoke f.args
    let named ← evaluateNamed setting invoke f.named
    let v ← Run.lift (Filter.apply setting.locale f.name v ⟨args, named⟩)
    applyFilters setting invoke filters v

/-- Another template: there is none. -/
def missingTemplate (optional : Bool) (name : Value) : Except Fault Unit :=
  let names :=
    match name with
    | .string _ _ => [name]
    | name => name.items?.getD [name]
  if names.any (·.kind != .string) then .error .invalidOperation
  else if names.isEmpty || optional then .ok ()
  else .error .templateNotFound

/-- The items that a condition holds of. -/
def keepItems (holds : Value → Run Bool) : List Value → Run (List Value)
  | [] => pure []
  | item :: items => do
    let kept ← holds item
    let rest ← keepItems holds items
    return if kept then item :: rest else rest

def moveLoop (index : Nat) : List Scope → List Scope
  | [] => []
  | scope :: outer => { scope with loop := scope.loop.map ({ · with index := index }) } :: outer

/-- Runs a step for one item after another, from position `index` on. -/
def forItems (step : Value → Run (Text × Signal)) : (index : Nat) → List Value → Run Text
  | _, [] => pure []
  | index, item :: items => do
    modify (moveLoop index)
    let (text, signal) ← step item
    if signal = .leave then return text
    else return text ++ (← forItems step (index + 1) items)

def bindAll (evaluate : Expr → Run Value) : List (Target × Expr) → Run Unit
  | [] => pure ()
  | (target, e) :: bindings => do
    assignTo evaluate target (← evaluate e)
    bindAll evaluate bindings

mutual

/-- Runs a statement: its text, and whether the next one is run. -/
def execute (setting : Setting) (invoke : Invoke) : Stmt → Run (Text × Signal)
  | .plain s => pure (s, .next)
  | .output e => return ((← evaluate setting invoke e).text, .next)
  | .loop target source condition recursive body otherwise => do
    let items ← Run.lift (← evaluate setting invoke source).items
    let items ←
      match condition with
      | none => pure items
      | some test =>
        Run.inner none (keepItems (fun item => do
          assignTo (evaluate setting invoke) target item
          return (← evaluate setting invoke test).isTrue) items)
    if items.isEmpty then executeAll setting invoke otherwise
    else
      let again := if recursive then some (target, body) else none
      let text ← Run.inner (some ⟨items, 0, 0, again, none⟩) (forItems (fun item => do
        assignTo (evaluate setting invoke) target item
        executeAll setting invoke body) 0 items)
      return (text, .next)
  | .choose test yes no => do
    let v ← evaluate setting invoke test
    if v.isTrue then executeAll setting invoke yes else executeAll setting invoke no
  | .assign target e => do
    assignTo (evaluate setting invoke) target (← evaluate setting invoke e)
    return ([], .next)
  | .capture target filters body => do
    let (text, signal) ← executeAll setting invoke body
    if signal = .next then
      let v ← applyFilters setting invoke filters (.ofText text)
      assignTo (evaluate setting invoke) target v
    return ([], signal)
  | .scoped bindings body =>
    Run.inner none (do
      bindAll (evaluate setting invoke) bindings
      executeAll setting invoke body)
  | .filtered filters body => do
    let (text, signal) ← executeAll setting invoke body
    return ((← applyFilters setting invoke filters (.ofText text)).text, signal)
  | .block _ body => Run.inner none (executeAll setting invoke body)
  | .routine name params defaults body => do
    let height := (← get).length
    modify (Scope.assign name (.routine ⟨name, params, defaults, body⟩ height))
    return ([], .next)
  | .perform e => do
    let _ ← evaluate setting invoke e
    return ([], .next)
  | .template name optional => do
    Run.lift (missingTemplate optional (← evaluate setting invoke name))
    return ([], .next)
  | .leave => pure ([], .leave)
  | .skip => pure ([], .skip)

def executeAll (setting : Setting) (invoke : Invoke) : List Stmt → Run (Text × Signal)
  | [] => pure ([], .next)
  | s :: stmts => do
    let (text, signal) ← execute setting invoke s
    if signal = .next then
      let (rest, signal) ← executeAll setting invoke stmts
      return (text ++ rest, signal)
    else return (text, signal)

end

/-! ## Routines -/

/-- The value of every parameter; one without an argument is undefined. -/
def bindParams (args : Arguments) : (position : Nat) → List Text →
    Except Fault (List (Text × Value))
  | _, [] => .ok []
  | position, param :: params => do
    let v ←
      match args.positional[position]?, args.named? param with
      | some _, some _ => .error .tooManyArguments
      | some v, none => .ok v
      | none, some v => .ok v
      | none, none => .ok .undefined
    return (param, v) :: (← bindParams args (position + 1) params)

def argumentsOf (r : Routine) (args : Arguments) : Except Fault (List (Text × Value)) := do
  Arguments.atMost r.params.length args.positional
  let bound ← bindParams args 0 r.params
  if args.named.all fun (name, _) => r.params.contains name then return bound
  else .error .tooManyArguments

/-- Puts parameters into the innermost scope, the last one first. One that is undefined takes its
default, which sees the parameters behind it only. -/
def bindDefaults (evaluate : Expr → Run Value) :
    (params : List (Text × Value)) → (defaults : List Expr) → Run Unit
  | [], _ => pure ()
  | (param, v) :: params, defaults => do
    let v ←
      match v, defaults with
      | .undefined, e :: _ => evaluate e
      | v, _ => pure v
    modify (Scope.assign param v)
    bindDefaults evaluate params defaults.tail

/-- How many routines can run inside each other. -/
def callLimit : Nat := 99

/-- Runs a part of the template from an expression, with at most `depth` parts in each other. -/
def invokeWithin (setting : Setting) : (depth : Nat) → Invoke
  | 0, _, _ => throw .invalidOperation
  | depth + 1, callee, args =>
    let invoke := invokeWithin setting depth
    match callee with
    | .routine r height => do
      let bound ← Run.lift (argumentsOf r args)
      Run.inScope height none (do
        bindDefaults (evaluate setting invoke) bound.reverse r.defaults.reverse
        let (text, _) ← executeAll setting invoke r.body
        return .ofText text)
    | .again target body loopDepth items => do
      let text ← Run.inner (some ⟨items, 0, loopDepth, some (target, body), none⟩)
        (forItems (fun item => do
          assignTo (evaluate setting invoke) target item
          executeAll setting invoke body) 0 items)
      return .ofText text
    | .block body => do
      let (text, _) ← Run.inner none (executeAll setting invoke body)
      return .ofText text

def renderWith (setting : Setting) (stmts : List Stmt) : Except Fault Text := do
  let ((text, _), _) ← executeAll setting (invokeWithin setting callLimit) stmts [⟨[], none, 0⟩]
  return text

end Phrasebook.Script
