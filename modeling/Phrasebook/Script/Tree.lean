import Phrasebook.Binary64.Basic
import Phrasebook.Text.Basic

/-!
# The tree of a script template
-/

namespace Phrasebook.Script

/-- A value that stands in a template as such. -/
inductive Literal
  | undefined
  | none
  | bool (b : Bool)
  | integer (n : Nat)
  | float (x : Binary64)
  | string (s : Text)
deriving DecidableEq

inductive UnaryOp
  | not
  | negate
deriving DecidableEq, Repr

inductive BinaryOp
  | or | and
  | equal | notEqual | less | lessEqual | greater | greaterEqual
  /-- Whether the left side is in the right side. -/
  | within
  | add | subtract | concat | multiply | divide | floorDivide | remainder | power
deriving DecidableEq, Repr

/-- An expression. A missing bound of a slice is the literal `none`, a missing alternative of a
conditional the literal `undefined`. -/
inductive Expr
  | literal (v : Literal)
  | name (s : Text)
  | list (items : List Expr)
  | map (entries : List (Expr × Expr))
  | unary (op : UnaryOp) (e : Expr)
  | binary (op : BinaryOp) (left right : Expr)
  | conditional (test yes no : Expr)
  | member (e : Expr) (name : Text)
  | item (e key : Expr)
  | slice (e start stop step : Expr)
  | filter (name : Text) (e : Expr) (args : List Expr) (named : List (Text × Expr))
  | test (name : Text) (e : Expr) (args : List Expr) (named : List (Text × Expr))
  | call (callee : Expr) (args : List Expr) (named : List (Text × Expr))

inductive Target
  | name (s : Text)
  | member (e : Expr) (name : Text)
  | unpack (targets : List Target)

/-- A filter that is put on the text of a part of a template. -/
structure FilterCall where
  name : Text
  args : List Expr
  named : List (Text × Expr)

inductive Stmt
  | plain (s : Text)
  | output (e : Expr)
  /-- Runs `body` for every item of `source` that `condition` holds of, or `otherwise` if there is
  none. -/
  | loop (target : Target) (source : Expr) (condition : Option Expr) (recursive : Bool)
      (body otherwise : List Stmt)
  | choose (test : Expr) (yes no : List Stmt)
  | assign (target : Target) (e : Expr)
  /-- Assigns the text of a part. -/
  | capture (target : Target) (filters : List FilterCall) (body : List Stmt)
  /-- Runs a part with names of its own. -/
  | scoped (bindings : List (Target × Expr)) (body : List Stmt)
  | filtered (filters : List FilterCall) (body : List Stmt)
  | block (name : Text) (body : List Stmt)
  | routine (name : Text) (params : List Text) (defaults : List Expr) (body : List Stmt)
  /-- Evaluates a call for its effect. -/
  | perform (e : Expr)
  /-- Another template; there is none. -/
  | template (name : Expr) (optional : Bool)
  | leave
  | skip

end Phrasebook.Script
