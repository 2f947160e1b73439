import Phrasebook.Proofs.Checked.Access
import Phrasebook.Proofs.Number.Sections

/-!
# Custom number patterns, read by position

The tokens of a pattern and the layout of a section, found with positions, slices and differences.
All of them are in range, whatever the pattern is: an escape or a quote that is not closed may lead
behind the end, but nothing is read there.
-/

namespace Phrasebook.Checked

open Number

/-! ## Tokens -/

/-- The token of an exponent whose letter stands before the text, and its further characters. -/
def exponent? (upper : Bool) (s : Text) : Checked (Option (Token × Nat)) := do
  let (alwaysSigned, signs) :=
    match s.head? with
    | some '+' => (true, 1)
    | some '-' => (false, 1)
    | _ => (false, 0)
  let zeros ← back s signs
  let width := (zeros.takeWhile (· == '0')).length
  return if 0 < width then some (.exponent upper alwaysSigned width, signs + width) else none

/-- The token at a position, and the position behind it. -/
def token (chars : Text) (position : Nat) : Checked (Token × Nat) := do
  let c ← element chars position
  let next := position + 1
  match c with
  | '\\' => return (.literal chars[next]?.toList, next + 1)
  | '\'' | '"' =>
    let behind ← back chars next
    let stop := ((behind.findIdx? (· == c)).map (next + ·)).getD chars.length
    let quoted ← slice chars next stop
    return (.literal quoted, stop + 1)
  | 'E' | 'e' =>
    let behind ← back chars next
    let (t, count) := (← exponent? (c == 'E') behind).getD (.literal [c], 0)
    return (t, next + count)
  | c => return ((Token.step c []).1, next)

def tokensFrom (chars : Text) (position : Nat) : Checked (List Token) :=
  if position < chars.length then do
    let (t, next) ← token chars position
    if position < next then (t :: ·) <$> tokensFrom chars next else .error .standstill
  else .ok []
termination_by chars.length - position
decreasing_by omega

def tokens (pattern : Text) : Checked (List Token) := tokensFrom pattern 0

theorem findIdx?_eq {α : Type} (p : α → Bool) (s : List α) :
    s.findIdx? p =
      if (s.takeWhile (!p ·)).length < s.length then some (s.takeWhile (!p ·)).length
        else none := by
  induction s with
  | nil => rfl
  | cons a s ih =>
      cases ha : p a with
      | true => simp [List.findIdx?_cons, ha]
      | false =>
          simp only [List.findIdx?_cons, ha, ih, Bool.false_eq_true, if_false, Bool.not_false,
            List.takeWhile_cons_of_pos, List.length_cons, Nat.add_lt_add_iff_right]
          split <;> rfl

theorem exponent?_eq_ok (upper : Bool) (s : Text) :
    exponent? upper s = .ok (Token.exponent? upper s) := by
  unfold exponent? Token.exponent?
  cases s with
  | nil => rfl
  | cons c s =>
      by_cases hplus : c = '+'
      · subst hplus
        simp [back_eq_ok]
      · by_cases hminus : c = '-'
        · subst hminus
          simp [back_eq_ok]
        · simp [back_eq_ok, hplus, hminus]

section Token

variable {chars : Text} {position : Nat}

/-- A quote is read to its mark, or to the end of the pattern where there is none. -/
theorem quoteEnd_eq (h : position ≤ chars.length) (mark : Char) :
    (((chars.drop position).findIdx? (· == mark)).map (position + ·)).getD chars.length =
      position + ((chars.drop position).takeWhile (· != mark)).length := by
  have hprefix := List.takeWhile_prefix (l := chars.drop position) (· != mark)
  have hle := hprefix.length_le
  have hlength : (chars.drop position).length = chars.length - position := List.length_drop
  have hmark : (fun c => !(c == mark)) = (· != mark) := rfl
  rw [findIdx?_eq, hmark]
  split
  · rfl
  · rw [Option.map_none, Option.getD_none]
    omega

theorem slice_quoted (h : position ≤ chars.length) (mark : Char) :
    slice chars position (position + ((chars.drop position).takeWhile (· != mark)).length) =
      .ok ((chars.drop position).takeWhile (· != mark)) := by
  have hprefix := List.takeWhile_prefix (l := chars.drop position) (· != mark)
  have hle := hprefix.length_le
  rw [List.length_drop] at hle
  rw [slice_eq_ok (Nat.le_add_right _ _) (by omega), Nat.add_sub_cancel_left,
    ← List.prefix_iff_eq_take.1 hprefix]

theorem token_eq_ok (h : position < chars.length) :
    token chars position =
      .ok ((Token.step chars[position] (chars.drop (position + 1))).1,
        position + 1 + (Token.step chars[position] (chars.drop (position + 1))).2) := by
  have hback : back chars (position + 1) = .ok (chars.drop (position + 1)) := back_eq_ok h
  unfold token
  rw [element_eq_ok h, bind_ok]
  generalize chars[position] = c
  dsimp only
  split
  · simp [Token.step, List.take_one]
  · rw [hback, bind_ok, quoteEnd_eq h, slice_quoted h]
    rfl
  · rw [hback, bind_ok, quoteEnd_eq h, slice_quoted h]
    rfl
  · rw [hback, bind_ok, exponent?_eq_ok, bind_ok]
    rfl
  · rw [hback, bind_ok, exponent?_eq_ok, bind_ok]
    rfl
  · next hescape hsingle hdouble hupper hlower =>
      by_cases hsemicolon : c = ';'
      · subst hsemicolon
        rfl
      · have hplain : c ∉ ("\\'\";Ee" : Text) := by
          simpa using ⟨hescape, hsingle, hdouble, hsemicolon, hupper, hlower⟩
        obtain ⟨t, -, hstep⟩ := Token.exists_step_eq hplain
        rw [hstep, hstep]
        rfl

/-- From each position on the tokens are those of the text that is left. -/
theorem tokensFrom_eq_ok (chars : Text) (position : Nat) :
    tokensFrom chars position = .ok (Text.lex Token.step (chars.drop position)) := by
  induction hleft : chars.length - position using Nat.strongRecOn generalizing position with
  | ind left ih =>
      unfold tokensFrom
      split
      · next h =>
          have hnext := fun count => ih (chars.length - (position + 1 + count)) (by omega) _ rfl
          rw [token_eq_ok h, bind_ok]
          dsimp only
          rw [if_pos (by omega), hnext, map_ok, List.drop_eq_getElem_cons h, Text.lex_cons,
            List.drop_drop]
      · next h =>
          rw [List.drop_of_length_le (by omega)]
          rfl

theorem tokens_eq_ok (pattern : Text) : tokens pattern = .ok (Token.ofText pattern) :=
  tokensFrom_eq_ok pattern 0

end Token

/-! ## Layouts -/

/-- Whether to group and how often to divide, by the commas from a position on: each one looks for
places in front of it and behind it. -/
def commasFrom (integer : List Token) : (position : Nat) → List Token → (grouping : Bool) →
    (divisions : Nat) → Checked (Bool × Nat)
  | _, [], grouping, divisions => .ok (grouping, divisions)
  | position, t :: ts, grouping, divisions =>
    if t = .comma then do
      let before ← front integer position
      let behind ← back integer (position + 1)
      match before.any Token.isDigit, behind.any Token.isDigit with
      | true, true => commasFrom integer (position + 1) ts true divisions
      | true, false => commasFrom integer (position + 1) ts grouping (divisions + 1)
      | false, _ => commasFrom integer (position + 1) ts grouping divisions
    else commasFrom integer (position + 1) ts grouping divisions

/-- The count of places from the first zero on. -/
def fromFirstZero (places : List Token) : Checked Nat :=
  match places.findIdx? (· == .zero) with
  | some first => minus places.length first
  | none => .ok 0

def layout (ts : List Token) : Checked Layout := do
  let point := (ts.findIdx? (· == .point)).getD ts.length
  let integer ← front ts point
  let fraction ← back ts point
  let places := integer.filter Token.isDigit
  let minInteger ← fromFirstZero places
  let (grouping, divisions) ← commasFrom integer 0 integer false 0
  let fractionPlaces := fraction.filter Token.isDigit
  return {
    places := places.length
    minInteger
    minFraction := (fractionPlaces.reverse.dropWhile (· != .zero)).length
    maxFraction := fractionPlaces.length
    grouping
    divisions }

section Layout

variable {t : Token} {ts : List Token}

/-- Whether a comma stands before the last place. -/
def commaBefore (ts : List Token) : Bool := (ts.reverse.dropWhile (!·.isDigit)).contains .comma

/-- The count of commas behind the last place. -/
def commasBehind (ts : List Token) : Nat := (ts.reverse.takeWhile (!·.isDigit)).count .comma

theorem dropWhile_reverse_cons (t : Token) (ts : List Token) :
    (t :: ts).reverse.dropWhile (!·.isDigit) =
      if ts.any Token.isDigit then ts.reverse.dropWhile (!·.isDigit) ++ [t]
      else [t].dropWhile (!·.isDigit) := by
  have hempty : (ts.reverse.dropWhile (!·.isDigit)).isEmpty = !ts.any Token.isDigit := by
    rw [Bool.eq_iff_iff]
    simp
  rw [List.reverse_cons, List.dropWhile_append, hempty]
  cases ts.any Token.isDigit <;> rfl

theorem takeWhile_reverse_cons (t : Token) (ts : List Token) :
    (t :: ts).reverse.takeWhile (!·.isDigit) =
      if ts.any Token.isDigit then ts.reverse.takeWhile (!·.isDigit)
      else ts.reverse.takeWhile (!·.isDigit) ++ [t].takeWhile (!·.isDigit) := by
  rw [List.reverse_cons, List.takeWhile_append]
  cases hany : ts.any Token.isDigit with
  | true =>
      obtain ⟨d, hd, hdigit⟩ := List.any_eq_true.1 hany
      rw [if_neg, if_pos rfl]
      intro hlength
      have hall := (List.takeWhile_prefix (l := ts.reverse) (!·.isDigit)).eq_of_length hlength
      rw [List.takeWhile_eq_self_iff] at hall
      simpa [hdigit] using hall d (List.mem_reverse.2 hd)
  | false =>
      have hall : ts.reverse.takeWhile (!·.isDigit) = ts.reverse := by
        rw [List.takeWhile_eq_self_iff]
        intro d hd
        simpa using List.any_eq_false.1 hany d (List.mem_reverse.1 hd)
      rw [hall, if_pos rfl, if_neg Bool.false_ne_true]

theorem commaBefore_of_not_any (h : ts.any Token.isDigit = false) : commaBefore ts = false := by
  have hnil : ts.reverse.dropWhile (!·.isDigit) = [] := by
    rw [List.dropWhile_eq_nil_iff]
    intro d hd
    simpa using List.any_eq_false.1 h d (List.mem_reverse.1 hd)
  rw [commaBefore, hnil]
  rfl

theorem commaBefore_comma (ts : List Token) :
    commaBefore (.comma :: ts) = ts.any Token.isDigit := by
  rw [commaBefore, dropWhile_reverse_cons]
  cases ts.any Token.isDigit
  · rfl
  · simp

theorem commasBehind_comma (ts : List Token) :
    commasBehind (.comma :: ts) = commasBehind ts + if ts.any Token.isDigit then 0 else 1 := by
  rw [commasBehind, takeWhile_reverse_cons]
  cases ts.any Token.isDigit
  · simp [commasBehind, Token.isDigit]
  · rfl

/-- Other tokens than commas have no part in it. -/
theorem commaBefore_cons (ht : t ≠ .comma) (ts : List Token) :
    commaBefore (t :: ts) = commaBefore ts := by
  rw [commaBefore, dropWhile_reverse_cons]
  cases hany : ts.any Token.isDigit with
  | false =>
      rw [commaBefore_of_not_any hany]
      cases hdigit : t.isDigit <;> simp [hdigit, Ne.symm ht]
  | true => simp [commaBefore, Ne.symm ht]

theorem commasBehind_cons (ht : t ≠ .comma) (ts : List Token) :
    commasBehind (t :: ts) = commasBehind ts := by
  rw [commasBehind, takeWhile_reverse_cons]
  cases ts.any Token.isDigit with
  | false => cases hdigit : t.isDigit <;> simp [commasBehind, hdigit, ht]
  | true => rfl

/-- A comma behind a place groups if another place follows, and divides otherwise. -/
theorem commasFrom_comma (lead ts : List Token) (grouping : Bool) (divisions : Nat) :
    commasFrom (lead ++ .comma :: ts) lead.length (.comma :: ts) grouping divisions =
      if lead.any Token.isDigit then
        commasFrom (lead ++ .comma :: ts) (lead.length + 1) ts (grouping || ts.any Token.isDigit)
          (divisions + if ts.any Token.isDigit then 0 else 1)
      else commasFrom (lead ++ .comma :: ts) (lead.length + 1) ts grouping divisions := by
  have hbefore : front (lead ++ .comma :: ts) lead.length = .ok lead := by
    rw [front_eq_ok (by simp), List.take_left]
  have hbehind : back (lead ++ .comma :: ts) (lead.length + 1) = .ok ts := by
    rw [back_eq_ok (by simp), ← List.drop_drop, List.drop_left]
    rfl
  rw [commasFrom, if_pos rfl, hbefore, hbehind, bind_ok, bind_ok]
  cases lead.any Token.isDigit <;> cases ts.any Token.isDigit <;> simp

/-- Commas in front of the first place are passed over, all others count. -/
theorem commasFrom_eq_ok (lead ts : List Token) (grouping : Bool) (divisions : Nat) :
    commasFrom (lead ++ ts) lead.length ts grouping divisions =
      let rest := if lead.any Token.isDigit then ts else ts.dropWhile (!·.isDigit)
      .ok (grouping || commaBefore rest, divisions + commasBehind rest) := by
  induction ts generalizing lead grouping divisions with
  | nil =>
      rw [List.dropWhile_nil, ite_self]
      simp [commasFrom, commaBefore, commasBehind]
  | cons t ts ih =>
      have hnext := ih (lead ++ [t])
      rw [List.append_assoc, List.singleton_append, List.length_append, List.length_singleton,
        List.any_append] at hnext
      by_cases ht : t = .comma
      · subst ht
        have hcomma : [Token.comma].any Token.isDigit = false := rfl
        rw [hcomma, Bool.or_false] at hnext
        rw [commasFrom_comma, hnext, hnext]
        cases hlead : lead.any Token.isDigit with
        | false => rfl
        | true =>
            simp only [if_true, commaBefore_comma, commasBehind_comma]
            cases hany : ts.any Token.isDigit with
            | true => simp
            | false => simp [commaBefore_of_not_any hany, Nat.add_assoc, Nat.add_comm 1]
      · rw [commasFrom, if_neg ht, hnext]
        cases hlead : lead.any Token.isDigit with
        | true => simp [commaBefore_cons ht, commasBehind_cons ht]
        | false =>
            cases hdigit : t.isDigit with
            | true => simp [hdigit, commaBefore_cons ht, commasBehind_cons ht]
            | false => simp [hdigit]

theorem front_point (ts : List Token) :
    front ts ((ts.findIdx? (· == .point)).getD ts.length) = .ok (Token.integerPart ts) ∧
      back ts ((ts.findIdx? (· == .point)).getD ts.length) = .ok (Token.fractionPart ts) := by
  have hprefix : Token.integerPart ts <+: ts := List.takeWhile_prefix _
  have hpoint : (ts.findIdx? (· == .point)).getD ts.length = (Token.integerPart ts).length := by
    have hle := hprefix.length_le
    have hnot : (fun t => !(t == Token.point)) = (· != .point) := rfl
    rw [findIdx?_eq, hnot, ← Token.integerPart]
    split
    · rfl
    · rw [Option.getD_none]
      omega
  have hsplit : Token.integerPart ts ++ Token.fractionPart ts = ts :=
    List.takeWhile_append_dropWhile
  rw [hpoint, front_eq_ok hprefix.length_le, back_eq_ok hprefix.length_le]
  constructor
  · rw [← List.prefix_iff_eq_take.1 hprefix]
  · nth_rewrite 2 [← hsplit]
    rw [List.drop_left]

theorem fromFirstZero_eq_ok (places : List Token) :
    fromFirstZero places = .ok (places.dropWhile (· != .zero)).length := by
  have hlength := congrArg List.length
    (List.takeWhile_append_dropWhile (p := (· != Token.zero)) (l := places))
  rw [List.length_append] at hlength
  have hnot : (fun t => !(t == Token.zero)) = (· != .zero) := rfl
  rw [fromFirstZero, findIdx?_eq, hnot]
  by_cases hlt : (places.takeWhile (· != .zero)).length < places.length
  · rw [if_pos hlt]
    dsimp only
    rw [minus_eq_ok hlt.le]
    congr 1
    omega
  · have hnone : (places.dropWhile (· != .zero)).length = 0 := by omega
    rw [if_neg hlt, hnone]

theorem layout_eq_ok (ts : List Token) : layout ts = .ok (Layout.ofTokens ts) := by
  obtain ⟨hinteger, hfraction⟩ := front_point ts
  have hcommas : commasFrom (Token.integerPart ts) 0 (Token.integerPart ts) false 0 =
      .ok (commaBefore ((Token.integerPart ts).dropWhile (!·.isDigit)),
        commasBehind ((Token.integerPart ts).dropWhile (!·.isDigit))) := by
    have hall := commasFrom_eq_ok [] (Token.integerPart ts) false 0
    rw [List.nil_append] at hall
    simpa using hall
  unfold layout
  dsimp only
  rw [hinteger, bind_ok, hfraction, bind_ok, fromFirstZero_eq_ok, bind_ok, hcommas, bind_ok]
  rfl

end Layout

end Phrasebook.Checked
