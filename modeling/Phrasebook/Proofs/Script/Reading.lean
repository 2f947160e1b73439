import Phrasebook.Proofs.Locale.Subtags
import Phrasebook.Script.Statement

/-!
# Reading an output of attributes

An output that asks a name for an attribute, that attribute for another and so on is cut into names
and dots, and is read as one attribute of another from the left.
-/

namespace Phrasebook.Script

namespace Token

/-! ## Names and dots -/

/-- A text that is written as one name. -/
def IsName (s : Text) : Prop :=
  ∃ c rest, s = c :: rest ∧ isNameStart c = true ∧ ∀ d ∈ rest, isNamePart d = true

/-- The tokens of attributes. -/
def attributeTokens (names : List Text) : List Token :=
  names.flatMap fun name => [symbol .dot, .name name]

/-- The text of attributes. -/
def attributeText (names : List Text) : Text := names.flatMap ('.' :: ·)

/-- The text of an output that asks `name` for an attribute, that one for the next and so on. -/
def outputText (name : Text) (names : List Text) : Text :=
  "\x7b\x7b " ++ (name ++ (attributeText names ++ " \x7d\x7d"))

variable {c : Char} {s name rest : Text} {names : List Text} {size : Nat}

theorem isName_of_all (hc : isNameStart c = true) (hs : s.all isNamePart = true) :
    IsName (c :: s) :=
  ⟨c, s, rfl, hc, List.all_eq_true.1 hs⟩

theorem IsName.ne_nil (h : IsName s) : s ≠ [] := by
  obtain ⟨c, rest, rfl, -⟩ := h
  exact List.cons_ne_nil c rest

theorem isNamePart_of_isNameStart (hc : isNameStart c = true) : isNamePart c = true := by
  simp only [isNameStart, isNamePart, Char.isAlphanum, Bool.or_eq_true] at hc ⊢
  rcases hc with hc | hc
  · exact .inl (.inl hc)
  · exact .inr hc

theorem pair?_of_isNameStart (hc : isNameStart c = true) (d : Char) : pair? c d = none := by
  unfold pair?
  split
  all_goals first | rfl | exact absurd hc (by decide)

theorem single?_of_isNameStart (hc : isNameStart c = true) : single? c = none := by
  unfold single?
  split
  all_goals first | rfl | exact absurd hc (by decide)

theorem isDigit_of_isNameStart (hc : isNameStart c = true) : c.isDigit = false := by
  simp only [isNameStart, Bool.or_eq_true, beq_iff_eq] at hc
  rcases hc with hc | rfl
  · exact LanguageTag.isDigit_of_isAlpha hc
  · rfl

theorem IsName.all_isNamePart (h : IsName name) : ∀ d ∈ name, isNamePart d = true := by
  obtain ⟨c, s, rfl, hc, hs⟩ := h
  intro d hd
  rcases List.mem_cons.1 hd with rfl | hd
  · exact isNamePart_of_isNameStart hc
  · exact hs d hd

/-- A name ends before what cannot stand in a name. -/
theorem next_name (h : IsName name) (hrest : ∀ d, rest.head? = some d → isNamePart d = false) :
    next (name ++ rest) = (.name name, rest) := by
  have hall := h.all_isNamePart
  have htake : (name ++ rest).takeWhile isNamePart = name := by
    rw [List.takeWhile_append_of_pos hall]
    cases rest with
    | nil => simp
    | cons d rest => simp [hrest d rfl]
  have hdrop : (name ++ rest).dropWhile isNamePart = rest := by
    rw [List.dropWhile_append_of_pos hall]
    cases rest with
    | nil => rfl
    | cons d rest => simp [hrest d rfl]
  obtain ⟨c, s, rfl, hc, -⟩ := h
  have hpair : (s ++ rest).head?.bind (pair? c) = none := by
    cases (s ++ rest).head? with
    | none => rfl
    | some d => exact pair?_of_isNameStart hc d
  have hquote : ¬(c = '\'' ∨ c = '"') := by
    rintro (rfl | rfl)
    · exact absurd hc (by decide)
    · exact absurd hc (by decide)
  rw [List.cons_append] at htake hdrop ⊢
  simp only [next, hpair, single?_of_isNameStart hc, if_neg hquote, isDigit_of_isNameStart hc, hc,
    htake, hdrop, if_true, Bool.false_eq_true, if_false]

theorem next_dot (s : Text) : next ('.' :: s) = (.symbol .dot, s) := by
  have hpair : s.head?.bind (pair? '.') = none := by
    cases s.head? with
    | none => rfl
    | some d => simp [pair?]
  simp [next, hpair, single?]

/-! ## Scanning -/

theorem afterEnd?_eq_none (hend : c ≠ '-' ∧ c ≠ '+' ∧ c ≠ '\x7d') (depth : Int) :
    afterEnd? "\x7d\x7d" depth (c :: s) = none := by
  obtain ⟨hminus, hplus, hbrace⟩ := hend
  have hclosing : afterClosing? "\x7d\x7d" (c :: s) = none := by
    unfold afterClosing?
    split
    · next heq => exact absurd (List.cons.inj heq).1 hminus
    · next heq => exact absurd (List.cons.inj heq).1 hplus
    · exact if_neg hbrace.symm
  rw [afterEnd?, hclosing, ite_self]

/-- What is no blank and does not begin the end of an output is the next token. -/
theorem scan_output {token : Token} (hc : Text.isAsciiBlank c = false)
    (hend : c ≠ '-' ∧ c ≠ '+' ∧ c ≠ '\x7d') (hnext : next (c :: s) = (token, rest))
    (hfault : ∀ f, token ≠ fault f) (depth : Int) :
    scan (size + 1) (.output depth) (c :: s) =
      token :: scan size (.output (depth + token.nesting)) rest := by
  have hdrop : (c :: s).dropWhile Text.isAsciiBlank = c :: s := by simp [hc]
  rw [scan, hdrop]
  dsimp only
  rw [afterEnd?_eq_none hend, hnext]
  cases token with
  | fault f => exact (hfault f rfl).elim
  | _ => rfl

theorem scan_output_name (h : IsName name)
    (hrest : ∀ d, rest.head? = some d → isNamePart d = false) :
    scan (size + 1) (.output 0) (name ++ rest) = .name name :: scan size (.output 0) rest := by
  have hnext := next_name h hrest
  obtain ⟨c, s, rfl, hc, -⟩ := h
  have hblank : Text.isAsciiBlank c = false := by
    rw [Bool.eq_false_iff]
    intro hblank
    simp only [Text.isAsciiBlank, Bool.or_eq_true, beq_iff_eq] at hblank
    rcases hblank with (((rfl | rfl) | rfl) | rfl) | rfl
    all_goals exact absurd hc (by decide)
  have hend : c ≠ '-' ∧ c ≠ '+' ∧ c ≠ '\x7d' := by
    refine ⟨?_, ?_, ?_⟩
    all_goals
      rintro rfl
      exact absurd hc (by decide)
  exact scan_output hblank hend hnext nofun 0

theorem scan_output_dot (s : Text) :
    scan (size + 1) (.output 0) ('.' :: s) = .symbol .dot :: scan size (.output 0) s :=
  scan_output (by decide) (by decide) (next_dot s) nofun 0

theorem scan_plain_output (s : Text) :
    scan (size + 1) .plain ('\x7b' :: '\x7b' :: ' ' :: s) =
      .openOutput :: scan size (.output 0) (' ' :: s) := rfl

theorem scan_output_blank (s : Text) :
    scan (size + 1) (.output 0) (' ' :: s) = scan (size + 1) (.output 0) s := rfl

theorem scan_plain_nil (size : Nat) : scan size .plain [] = [] := by
  cases size <;> rfl

/-- Every attribute is a dot and a name. -/
theorem scan_attributes (hnames : ∀ name ∈ names, IsName name)
    (hrest : ∀ d, rest.head? = some d → isNamePart d = false) :
    scan (size + 2 * names.length) (.output 0) (attributeText names ++ rest) =
      attributeTokens names ++ scan size (.output 0) rest := by
  induction names with
  | nil => rfl
  | cons name names ih =>
      have hname := hnames name List.mem_cons_self
      have hnames' : ∀ other ∈ names, IsName other := fun other hother =>
        hnames other (List.mem_cons_of_mem name hother)
      have hbehind : ∀ d, (attributeText names ++ rest).head? = some d → isNamePart d = false := by
        cases names with
        | nil => exact hrest
        | cons other names =>
            intro d hd
            obtain rfl : '.' = d := Option.some.inj hd
            decide
      have hfuel : size + 2 * (name :: names).length = size + 2 * names.length + 1 + 1 := by
        rw [List.length_cons]
        omega
      have htext : attributeText (name :: names) ++ rest =
          '.' :: (name ++ (attributeText names ++ rest)) := by
        simp [attributeText]
      rw [hfuel, htext, scan_output_dot, scan_output_name hname hbehind, ih hnames']
      rfl

theorem two_mul_length_le (hnames : ∀ name ∈ names, IsName name) :
    2 * names.length ≤ (attributeText names).length := by
  induction names with
  | nil => simp
  | cons name names ih =>
      have hname := List.length_pos_iff.2 (hnames name List.mem_cons_self).ne_nil
      have hrest := ih fun other hother => hnames other (List.mem_cons_of_mem name hother)
      simp only [attributeText, List.flatMap_cons, List.length_append, List.length_cons] at hrest ⊢
      omega

/-- An output of attributes is cut at its names and dots. -/
theorem ofTemplate_outputText (hname : IsName name) (hnames : ∀ name ∈ names, IsName name) :
    ofTemplate (outputText name names) =
      .openOutput :: .name name :: (attributeTokens names ++ [.closeOutput]) := by
  have hlast : (outputText name names).getLast? = some '\x7d' := by
    rw [outputText, ← List.append_assoc, ← List.append_assoc,
      List.getLast?_append_of_ne_nil _ (by decide)]
    rfl
  have hkept : dropLast '\r' (dropLast '\n' (outputText name names)) = outputText name names := by
    simp [dropLast, hlast]
  have hspace : ∀ d, (" \x7d\x7d".toList).head? = some d → isNamePart d = false := by
    intro d hd
    obtain rfl : ' ' = d := Option.some.inj hd
    decide
  have hhead : ∀ d, (attributeText names ++ " \x7d\x7d".toList).head? = some d →
      isNamePart d = false := by
    cases names with
    | nil => exact hspace
    | cons other names =>
        intro d hd
        obtain rfl : '.' = d := Option.some.inj hd
        decide
  obtain ⟨spare, hspare⟩ : ∃ spare, (outputText name names).length + 1 =
      spare + 1 + 2 * names.length + 1 + 1 := by
    have hlength := two_mul_length_le hnames
    have hpos := List.length_pos_iff.2 hname.ne_nil
    refine ⟨(outputText name names).length - 2 * names.length - 2, ?_⟩
    simp [outputText]
    omega
  rw [ofTemplate, hkept, hspare]
  calc
    _ = .openOutput :: scan (spare + 1 + 2 * names.length + 1) (.output 0)
          (' ' :: (name ++ (attributeText names ++ " \x7d\x7d"))) := scan_plain_output _
    _ = .openOutput :: .name name :: scan (spare + 1 + 2 * names.length) (.output 0)
          (attributeText names ++ " \x7d\x7d") := by
      rw [scan_output_blank, scan_output_name hname hhead]
    _ = .openOutput :: .name name ::
          (attributeTokens names ++ scan (spare + 1) (.output 0) " \x7d\x7d") := by
      rw [scan_attributes hnames hspace]
    _ = .openOutput :: .name name ::
          (attributeTokens names ++ .closeOutput :: scan spare .plain []) := rfl
    _ = _ := by rw [scan_plain_nil]

end Token

/-- Attributes of an expression, each one of the one before it. -/
def attributes (e : Expr) (names : List Text) : Expr := names.foldl .member e

/-- The words that are no names of variables where an expression begins. -/
def leadingWords : List Text := ["true", "True", "false", "False", "none", "None", "not"]

namespace Reader

open Token

variable {operand : Reader Expr} {nested : Nested} {tokens rest : List Token} {t : Token}
  {e : Expr} {size : Nat} {name : Text} {names : List Text}

theorem bind_of_ok {α β : Type} {reader : Reader α} {f : α → Reader β} {a : α}
    (h : reader tokens = .ok (a, rest)) : (reader >>= f) tokens = f a rest := by
  simp only [bind, StateT.bind, h, Except.bind]

theorem peek_cons (t : Token) (rest : List Token) :
    peek (t :: rest) = .ok (some t, t :: rest) := rfl

theorem remaining_eq (tokens : List Token) : remaining tokens = .ok (tokens.length, tokens) := rfl

theorem accept_of_ne {token : Token} (h : t ≠ token) :
    accept token (t :: rest) = .ok (false, t :: rest) := if_neg h

/-! ## Operators -/

/-- An operand stands for itself before a token that is no operator. -/
theorem chain_of_none (operator? : Token → Option BinaryOp)
    (h : operand tokens = .ok (e, t :: rest)) (ht : operator? t = none) :
    chain operator? operand tokens = .ok (e, t :: rest) := by
  rw [chain, bind_of_ok h]
  change chainFrom operand operator? (rest.length + 1) e (t :: rest) = _
  rw [chainFrom, bind_of_ok (peek_cons t rest), Option.bind_some, ht]
  rfl

theorem comparisons_of_none (h : operand tokens = .ok (e, t :: rest)) (hnot : t ≠ .name "not")
    (ht : compareOperator? t = none) : comparisons operand tokens = .ok (e, t :: rest) := by
  rw [comparisons, bind_of_ok h]
  change comparisonsFrom operand (rest.length + 1) e (t :: rest) = _
  rw [comparisonsFrom, acceptName, bind_of_ok (accept_of_ne hnot), if_neg Bool.false_ne_true,
    bind_of_ok (peek_cons t rest), Option.bind_some, ht]
  rfl

theorem negations_of_ne (ht : t ≠ .name "not") (size : Nat) :
    negations operand size (t :: rest) = operand (t :: rest) := by
  cases size with
  | zero => rfl
  | succ size =>
      rw [negations, acceptName, bind_of_ok (accept_of_ne ht), if_neg Bool.false_ne_true]

theorem signs_of_ne (ht : t ≠ .symbol .minus) (size : Nat) :
    signs operand size (t :: rest) = operand (t :: rest) := by
  cases size with
  | zero => rfl
  | succ size =>
      rw [signs, acceptSymbol, bind_of_ok (accept_of_ne ht), if_neg Bool.false_ne_true]

theorem conditional_of_ne (h : operand tokens = .ok (e, t :: rest)) (ht : t ≠ .name "if") :
    conditional operand tokens = .ok (e, t :: rest) := by
  rw [conditional, bind_of_ok h]
  change conditionsFrom operand (rest.length + 1) e (t :: rest) = _
  rw [conditionsFrom, acceptName, bind_of_ok (accept_of_ne ht), if_neg Bool.false_ne_true]
  rfl

/-- What is read without operators is the whole expression of an output if the output ends
behind it. -/
theorem disjunction_of_filtered
    (h : filtered nested (t :: tokens) = .ok (e, .closeOutput :: rest)) (ht : t ≠ .name "not") :
    disjunction nested (t :: tokens) = .ok (e, .closeOutput :: rest) := by
  have hpower := chain_of_none powerOperator? h rfl
  have hproduct := chain_of_none productOperator? hpower rfl
  have hconcat := chain_of_none concatOperator? hproduct rfl
  have hsum := chain_of_none sumOperator? hconcat rfl
  have hcomparison := comparisons_of_none hsum nofun rfl
  have hnegation := (negations_of_ne ht (tokens.length + 1)).trans hcomparison
  unfold disjunction
  apply chain_of_none orOperator? _ rfl
  exact chain_of_none andOperator? hnegation rfl

/-! ## Attributes -/

/-- Every attribute takes one step, and an output that ends has no more of them. -/
theorem suffixesFrom_attributes (hsize : names.length ≤ size) (e : Expr) :
    suffixesFrom nested size e (attributeTokens names ++ .closeOutput :: rest) =
      .ok (attributes e names, .closeOutput :: rest) := by
  induction names generalizing size e with
  | nil =>
      cases size with
      | zero => rfl
      | succ size => rfl
  | cons name names ih =>
      cases size with
      | zero => exact absurd hsize (Nat.not_succ_le_zero _)
      | succ size => exact ih (Nat.le_of_succ_le_succ hsize) (.member e name)

theorem primary_name (hname : name ∉ leadingWords) (tokens : List Token) :
    primary nested (.name name :: tokens) = .ok (.name name, tokens) := by
  simp only [leadingWords, List.mem_cons, List.not_mem_nil, or_false, not_or] at hname
  obtain ⟨htrue, hTrue, hfalse, hFalse, hnone, hNone, -⟩ := hname
  simp only [primary, htrue, hTrue, hfalse, hFalse, hnone, hNone, or_self, if_false]

theorem length_le_attributeTokens (names : List Text) :
    names.length ≤ (attributeTokens names ++ rest).length := by
  induction names with
  | nil => exact Nat.zero_le _
  | cons name names ih =>
      simp only [attributeTokens, List.flatMap_cons, List.cons_append, List.nil_append,
        List.length_cons] at ih ⊢
      omega

theorem suffixed_attributes (hname : name ∉ leadingWords) :
    suffixed nested (.name name :: (attributeTokens names ++ .closeOutput :: rest)) =
      .ok (attributes (.name name) names, .closeOutput :: rest) := by
  have hminus : Token.name name ≠ .symbol .minus := nofun
  have hfirst (size : Nat) : signs (primary nested) size
      (.name name :: (attributeTokens names ++ .closeOutput :: rest)) =
        .ok (.name name, attributeTokens names ++ .closeOutput :: rest) :=
    (signs_of_ne hminus size).trans (primary_name hname _)
  rw [suffixed, bind_of_ok (remaining_eq _), bind_of_ok (hfirst _), bind_of_ok (remaining_eq _)]
  exact suffixesFrom_attributes (length_le_attributeTokens names) _

theorem filtered_attributes (hname : name ∉ leadingWords) :
    filtered nested (.name name :: (attributeTokens names ++ .closeOutput :: rest)) =
      .ok (attributes (.name name) names, .closeOutput :: rest) := by
  rw [filtered, bind_of_ok (suffixed_attributes hname)]
  rfl

/-- An output of attributes is read as one attribute of another, from the left. -/
theorem expression_attributes (hname : name ∉ leadingWords) :
    expression (.name name :: (attributeTokens names ++ .closeOutput :: rest)) =
      .ok (attributes (.name name) names, .closeOutput :: rest) := by
  have hnot : Token.name name ≠ .name "not" := by
    rintro heq
    exact hname (Token.name.inj heq ▸ by decide)
  exact conditional_of_ne (disjunction_of_filtered (filtered_attributes hname) hnot) nofun

theorem statementsFrom_output (h : expression tokens = .ok (e, [.closeOutput]))
    (single : Reader Stmt) (stop : List String) (size : Nat) :
    statementsFrom single stop (size + 1) (.openOutput :: tokens) = .ok ([.output e], []) := by
  calc
    _ = (do
          let e ← expression
          expect .closeOutput
          return Stmt.output e :: (← statementsFrom single stop size) :
            Reader (List Stmt)) tokens := rfl
    _ = _ := by
      rw [bind_of_ok h]
      cases size <;> rfl

/-- A template that is an output of attributes. -/
theorem template_attributes (hname : name ∉ leadingWords) :
    template (.openOutput :: .name name :: (attributeTokens names ++ [.closeOutput])) =
      .ok ([.output (attributes (.name name) names)], []) :=
  statementsFrom_output (expression_attributes hname) _ [] _

end Reader

open Token in
/-- A template that is an output of attributes has this one statement. -/
theorem statementsOf_outputText {name : Text} {names : List Text} (hname : IsName name)
    (hword : name ∉ leadingWords) (hnames : ∀ name ∈ names, IsName name) :
    statementsOf (outputText name names) = .ok [.output (attributes (.name name) names)] := by
  rw [statementsOf, ofTemplate_outputText hname hnames, Reader.template_attributes hword]
  rfl

end Phrasebook.Script
