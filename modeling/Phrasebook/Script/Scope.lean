import Phrasebook.Script.Arguments

/-!
# Scopes

Scopes stand in a list with the innermost one first. The height of a scope is the number of scopes
from it on outwards. A scope sees the outer scopes up to a height of its own: those of a routine
are the ones around its definition, not the ones around its call.
-/

namespace Phrasebook.Script

/-- Where a loop stands among its items. -/
structure Loop where
  items : List Value
  index : Nat
  /-- How many times the loop runs inside itself. -/
  depth : Nat
  /-- What the loop does, if it can run inside itself. -/
  again : Option (Target × List Stmt)
  /-- The arguments of the last question whether something changed. -/
  last : Option (List Value)

/-- The names that a part of a template has for itself. -/
structure Scope where
  locals : List (Text × Value)
  loop : Option Loop
  reach : Nat

/-- A computation on scopes that can fail. -/
abbrev Run := StateT (List Scope) (Except Fault)

namespace Scope

/-- The scopes that are seen from behind a scope. -/
def visible (reach : Nat) (outer : List Scope) : List Scope := outer.drop (outer.length - reach)

/-- The first of at most `size` visible scopes of which something is found. -/
def findVisible? {α : Type} (look? : Scope → (height : Nat) → Option α) :
    (size : Nat) → List Scope → Option α
  | 0, _ => none
  | _, [] => none
  | size + 1, scope :: outer =>
    match look? scope (outer.length + 1) with
    | some a => some a
    | none => findVisible? look? size (visible scope.reach outer)

/-- What a scope itself knows under a name. -/
def local? (name : Text) (scope : Scope) (height : Nat) : Option Value :=
  match scope.locals.lookup name with
  | some v => some v
  | none => if name = "loop" ∧ scope.loop.isSome then some (.loop height) else none

def lookup? (name : Text) (scopes : List Scope) : Option Value :=
  findVisible? (local? name) scopes.length scopes

def innermostLoop? (scopes : List Scope) : Option Loop :=
  findVisible? (fun scope _ => scope.loop) scopes.length scopes

def loopAt? (height : Nat) (scopes : List Scope) : Option Loop :=
  (visible height scopes).head?.bind (·.loop)

/-- Puts a name into the innermost scope. -/
def assign (name : Text) (v : Value) : List Scope → List Scope
  | [] => []
  | scope :: outer =>
    { scope with locals := (name, v) :: scope.locals.filter (·.1 != name) } :: outer

def changeLoop (height : Nat) (f : Loop → Loop) (scopes : List Scope) : List Scope :=
  let inner := scopes.take (scopes.length - height)
  match visible height scopes with
  | [] => scopes
  | scope :: outer => inner ++ { scope with loop := scope.loop.map f } :: outer

end Scope

namespace Run

def lift {α : Type} (result : Except Fault α) : Run α := fun scopes =>
  match result with
  | .ok a => .ok (a, scopes)
  | .error fault => .error fault

/-- Runs a computation in a new scope that sees the scopes up to a height. -/
def inScope {α : Type} (reach : Nat) (loop : Option Loop) (run : Run α) : Run α := fun scopes =>
  match run (⟨[], loop, reach⟩ :: scopes) with
  | .ok (a, scopes) => .ok (a, scopes.tail)
  | .error fault => .error fault

/-- Runs a computation in a new scope that sees all others. -/
def inner {α : Type} (loop : Option Loop) (run : Run α) : Run α := fun scopes =>
  inScope scopes.length loop run scopes

end Run

/-! ## Questions to a loop -/

namespace Loop

def attribute? (l : Loop) (name : Text) : Option Value :=
  let size := l.items.length
  match String.ofList name with
  | "index0" => some (.integer l.index)
  | "index" => some (.integer (l.index + 1))
  | "length" => some (.integer size)
  | "revindex" => some (.integer (size - l.index : Nat))
  | "revindex0" => some (.integer (size - (l.index + 1) : Nat))
  | "first" => some (.bool (l.index == 0))
  | "last" => some (.bool (l.index + 1 == size))
  | "depth" => some (.integer (l.depth + 1))
  | "depth0" => some (.integer l.depth)
  | "previtem" => some (if l.index = 0 then .undefined else (l.items[l.index - 1]?).getD .undefined)
  | "nextitem" => some ((l.items[l.index + 1]?).getD .undefined)
  | _ => none

def cycle (l : Loop) (args : List Value) : Except Fault Value :=
  match args[l.index % args.length]? with
  | some v => .ok v
  | none => .error .invalidOperation

/-- Whether the arguments differ from those of the last time. -/
def changed (l : Loop) (args : List Value) : Bool :=
  match l.last with
  | some last => !Value.sameItems (Value.plainItems last) (Value.plainItems args)
  | none => true

end Loop

end Phrasebook.Script
