import Phrasebook.Text.Basic

/-!
# Cutting a text into tokens

A step looks at a character and what follows it, and says which token starts there and how many of
the following characters belong to it.
-/

namespace Phrasebook.Text

variable {α : Type}

/-- The tokens of a text whose first `skip` characters belong to an earlier token. -/
def lexFrom (step : Char → Text → α × Nat) : (skip : Nat) → Text → List α
  | _, [] => []
  | skip + 1, _ :: s => lexFrom step skip s
  | 0, c :: s => (step c s).1 :: lexFrom step (step c s).2 s

def lex (step : Char → Text → α × Nat) (s : Text) : List α := lexFrom step 0 s

@[simp] theorem lexFrom_nil (step : Char → Text → α × Nat) (skip : Nat) :
    lexFrom step skip [] = [] := by
  cases skip <;> rfl

@[simp] theorem lexFrom_succ (step : Char → Text → α × Nat) (skip : Nat) (c : Char) (s : Text) :
    lexFrom step (skip + 1) (c :: s) = lexFrom step skip s := rfl

@[simp] theorem lexFrom_zero (step : Char → Text → α × Nat) (c : Char) (s : Text) :
    lexFrom step 0 (c :: s) = (step c s).1 :: lexFrom step (step c s).2 s := rfl

theorem lexFrom_eq_lex_drop (step : Char → Text → α × Nat) (skip : Nat) (s : Text) :
    lexFrom step skip s = lex step (s.drop skip) := by
  induction skip generalizing s with
  | zero => rfl
  | succ skip ih =>
    cases s with
    | nil => simp [lex]
    | cons c s => simpa using ih s

end Phrasebook.Text
