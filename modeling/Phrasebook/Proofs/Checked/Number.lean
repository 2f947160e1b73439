import Phrasebook.Proofs.Checked.Pattern
import Phrasebook.Proofs.Number.Characters
import Phrasebook.Proofs.Number.General
import Phrasebook.Proofs.Number.Places

/-!
# Numbers, laid out by position

The standard formats cut digits at positions that the exponent gives, and a section takes its digits
from positions that its places give. All of these are in range: for every pattern, every culture and
every number, so also where the words for what is not finite stand in for digits.
-/

namespace Phrasebook.Checked

open Number

attribute [local irreducible] Binary64.ofUnits Binary64.unitsOfOne Binary64.unitLimit

/-! ## Groups -/

/-- Whether a group of digits begins at a position; nothing is subtracted at the first one. -/
def beginsGroup (length position : Nat) : Checked Bool :=
  if 0 < position then (fun left => left % 3 == 0) <$> minus length position else .ok false

def groupFrom (separator : Text) (length : Nat) : (position : Nat) → Text → Checked Text
  | _, [] => .ok []
  | position, c :: s => do
    let begins ← beginsGroup length position
    let grouped ← groupFrom separator length (position + 1) s
    return (if begins then separator else []) ++ c :: grouped

/-- The digits with the separator before every group of three that others precede. -/
def group (separator s : Text) : Checked Text := groupFrom separator s.byteSize 0 s

theorem group_cons (separator : Text) (c : Char) (s : Text) :
    Number.group separator (c :: s) =
      c :: ((if s.length % 3 = 0 ∧ s ≠ [] then separator else []) ++ Number.group separator s) := by
  rw [Number.group]
  split <;> rfl

/-- Behind the first digit, what is left to write is the length less the position. -/
theorem groupFrom_eq_ok (separator s : Text) {position : Nat} (hpos : 0 < position) :
    groupFrom separator (position + s.length) position s =
      .ok ((if s.length % 3 = 0 ∧ s ≠ [] then separator else []) ++ Number.group separator s) := by
  induction s generalizing position with
  | nil => rfl
  | cons c s ih =>
      have hrest := ih (Nat.succ_pos position)
      have hlength : position + (c :: s).length = position + 1 + s.length := by
        rw [List.length_cons]
        omega
      have hbegins : beginsGroup (position + 1 + s.length) position =
          .ok ((c :: s).length % 3 == 0) := by
        rw [beginsGroup, if_pos hpos, minus_eq_ok (by omega), map_ok]
        congr 3
        rw [List.length_cons]
        omega
      rw [groupFrom, hlength, hbegins, bind_ok, hrest, bind_ok, pure_eq_ok, ← group_cons]
      simp

theorem group_eq_ok {s : Text} (hs : s.IsSingleByte) (separator : Text) :
    group separator s = .ok (Number.group separator s) := by
  cases s with
  | nil => rfl
  | cons c s =>
      have hrest := groupFrom_eq_ok separator s Nat.one_pos
      have hlength : (c :: s).length = 1 + s.length := by
        rw [List.length_cons, Nat.add_comm]
      rw [group, hs.byteSize_eq, hlength, groupFrom, hrest, group_cons]
      rfl

/-! ## Standard formats -/

def grouped (culture : Culture) (f : Fixed) : Checked Text := do
  let whole ← group culture.groupSeparator f.whole
  return joinFraction culture whole f.fraction

def inPattern (culture : Culture) (pattern : Text) (f : Fixed) : Checked Text := do
  let amount ← grouped culture f
  return withSign f.negative (Text.replaceFirst 'n' amount pattern)

/-- Significant digits, positional where the exponent is less than the limit. -/
def significantText (culture : Culture) (digits : Text) (exponent : Int) (limit : Nat)
    (upper : Bool) : Checked Text :=
  if -5 < exponent ∧ exponent < limit then
    if 0 ≤ exponent then do
      let split := (← unsigned exponent) + 1
      if split < digits.byteSize then
        return joinFraction culture (← frontBytes digits split) (← backBytes digits split)
      else
        return digits ++ List.replicate (← minus split digits.byteSize) '0'
    else do
      let zeros ← unsigned (-exponent - 1)
      return joinFraction culture "0" (List.replicate zeros '0' ++ digits)
  else do
    return joinFraction culture (← frontBytes digits 1) (← backBytes digits 1) ++
      exponentText exponent 2 upper

/-- General notation. What is not finite has no digits to cut. -/
def general (culture : Culture) (n : Number) (precision : Option Nat) (upper : Bool) :
    Checked Text :=
  match n, precision with
  | integer i, none => .ok (integerText i)
  | n, precision =>
    match n.toBinary64 with
    | .finite x =>
      if x.magnitude.isZero then .ok "0"
      else
        let (digits, exponent) := significant x.magnitude precision
        withSign x.negative <$> significantText culture digits exponent (precision.getD 15) upper
    | _ => .ok (Number.general culture n precision upper)

/-- Writes a number in the way that a letter names; the letters left out read nothing by
position. -/
def standard (culture : Culture) (n : Number) (letter : Char) (precision : Option Nat) :
    Checked (Except FormatFault Text) :=
  match letter.toUpper with
  | 'C' => .ok <$> inPattern culture culture.currency (n.fixed (precision.getD 2))
  | 'G' => .ok <$> general culture n (precision.filter (0 < ·)) letter.isUpper
  | 'R' => .ok <$> general culture n none true
  | 'N' =>
    let f := n.fixed (precision.getD 2)
    (fun amount => .ok (withSign f.negative amount)) <$> grouped culture f
  | 'P' => .ok <$> inPattern culture culture.percent ((n.scale 100).fixed (precision.getD 2))
  | _ => .ok (Number.standard culture n letter precision)

/-- The integer digits of a number are digits, or the letters of a word. -/
theorem isSingleByte_whole_fixed (n : Number) (decimals : Nat) :
    (n.fixed decimals).whole.IsSingleByte := by
  by_cases hn : n.IsFinite
  · exact Text.isSingleByte_of_digits (hasDigits_fixed_iff.2 hn).whole
  · match n with
    | integer i => exact (hn trivial).elim
    | float .nan => simp [Text.IsSingleByte, fixed, Char.utf8Size]
    | float (.infinite _) => simp [Text.IsSingleByte, fixed, Char.utf8Size]
    | float (.finite _) => exact (hn trivial).elim

theorem grouped_eq_ok (culture : Culture) (n : Number) (decimals : Nat) :
    grouped culture (n.fixed decimals) = .ok (Number.grouped culture (n.fixed decimals)) := by
  rw [grouped, group_eq_ok (isSingleByte_whole_fixed n decimals)]
  rfl

theorem inPattern_eq_ok (culture : Culture) (pattern : Text) (n : Number) (decimals : Nat) :
    inPattern culture pattern (n.fixed decimals) =
      .ok (Number.inPattern culture pattern (n.fixed decimals)) := by
  rw [inPattern, grouped_eq_ok]
  rfl

/-- A digit is enough: cuts behind it are asked for only where the digits reach that far. -/
theorem significantText_eq_ok {digits : Text} (hdigits : digits.IsSingleByte) (hne : digits ≠ [])
    (culture : Culture) (exponent : Int) (limit : Nat) (upper : Bool) :
    significantText culture digits exponent limit upper =
      .ok (if -5 < exponent ∧ exponent < limit then
          if exponent < 0 then
            joinFraction culture "0" (List.replicate (exponent.natAbs - 1) '0' ++ digits)
          else
            let size := exponent.natAbs + 1
            if size < digits.length then
              joinFraction culture (digits.take size) (digits.drop size)
            else digits ++ List.replicate (size - digits.length) '0'
        else
          joinFraction culture (digits.take 1) (digits.drop 1) ++
            exponentText exponent 2 upper) := by
  unfold significantText
  by_cases hwindow : -5 < exponent ∧ exponent < limit
  · rw [if_pos hwindow, if_pos hwindow]
    by_cases hnegative : exponent < 0
    · have hzeros : (-exponent - 1).toNat = exponent.natAbs - 1 := by omega
      rw [if_neg (by omega), if_pos hnegative, unsigned_eq_ok (by omega), bind_ok, hzeros]
      rfl
    · have hsize : exponent.toNat = exponent.natAbs := by omega
      rw [if_pos (by omega), if_neg hnegative, unsigned_eq_ok (by omega), bind_ok, hsize,
        hdigits.byteSize_eq]
      dsimp only
      split
      · next hlt =>
          rw [frontBytes_eq_ok hdigits hlt.le, backBytes_eq_ok hdigits hlt.le]
          rfl
      · next hge =>
          rw [minus_eq_ok (Nat.le_of_not_lt hge)]
          rfl
  · have hpos : 1 ≤ digits.length := List.length_pos_iff.2 hne
    rw [if_neg hwindow, if_neg hwindow, frontBytes_eq_ok hdigits hpos, backBytes_eq_ok hdigits hpos]
    rfl

example (culture : Culture) : significantText culture [] 20 15 true = .error .bound := rfl

theorem general_eq_ok (culture : Culture) (n : Number) (precision : Option Nat) (upper : Bool) :
    general culture n precision upper = .ok (Number.general culture n precision upper) := by
  unfold general
  split
  · rfl
  · next hprecise =>
      split
      · next x hx =>
          have hfloat : precision = none → ∃ y, n = float y := by
            rintro rfl
            match n with
            | integer i => exact (hprecise i rfl rfl).elim
            | float y => exact ⟨y, rfl⟩
          rw [general_eq_generalFinite hx hfloat, generalFinite]
          split
          · rfl
          · next hzero =>
              have hne := significant_ne_nil (Bool.eq_false_iff.2 hzero) precision
              have hdigits : (significant x.magnitude precision).1.IsSingleByte :=
                Text.isSingleByte_of_digits fun _ => isDigit_of_mem_significant
              dsimp only
              rw [significantText_eq_ok hdigits hne, map_ok]
      · rfl

theorem standard_eq_ok (culture : Culture) (n : Number) (letter : Char) (precision : Option Nat) :
    standard culture n letter precision = .ok (Number.standard culture n letter precision) := by
  unfold standard
  split
  · next hletter =>
      rw [inPattern_eq_ok]
      simp only [Number.standard, hletter, map_ok]
  · next hletter =>
      rw [general_eq_ok]
      simp only [Number.standard, hletter, map_ok]
  · next hletter =>
      rw [general_eq_ok]
      simp only [Number.standard, hletter, map_ok]
  · next hletter =>
      dsimp only
      rw [grouped_eq_ok]
      simp only [Number.standard, hletter, map_ok]
  · next hletter =>
      rw [inPattern_eq_ok]
      simp only [Number.standard, hletter, map_ok]
  · rfl

/-! ## Sections -/

/-- The digits at an integer place, where `k` places came before: the first place takes all that the
others leave, each other one the digit that stands as far from the end as the place. -/
def placeText (layout : Layout) (grouped whole : Text) (k : Nat) : Checked Text :=
  if layout.grouping then .ok (if k = 0 then grouped else [])
  else do
    let left ← minus layout.places k
    let position : Int := whole.length - left
    if 0 ≤ position then
      let position ← unsigned position
      if k = 0 then front whole (position + 1)
      else (fun digit => [digit]) <$> element whole position
    else return []

/-- The text of the tokens, where so many integer and fraction places came before. -/
def emit (culture : Culture) (layout : Layout) (d : Digits) (grouped : Text) :
    (behindPoint : Bool) → (k seen : Nat) → List Token → Checked Text
  | _, _, _, [] => .ok []
  | behindPoint, k, seen, t :: ts =>
    if t.isDigit then
      if behindPoint then do
        let others ← emit culture layout d grouped true k (seen + 1) ts
        return d.fraction[seen]?.toList ++ others
      else do
        let own ← placeText layout grouped d.whole k
        let others ← emit culture layout d grouped false (k + 1) seen ts
        return own ++ others
    else if t = .point ∧ behindPoint = false then do
      let others ← emit culture layout d grouped true k seen ts
      return pointText culture layout d ++ others
    else do
      let others ← emit culture layout d grouped behindPoint k seen ts
      return t.markText d.exponent ++ others

/-- The integer digits, none for zero, filled up with zeros to the least count. -/
def padWhole (minInteger : Nat) (whole : Text) : Checked Text :=
  let shown : Text := if whole = ['0'] then [] else whole
  if shown.byteSize < minInteger then do
    let zeros ← minus minInteger shown.byteSize
    return List.replicate zeros '0' ++ shown
  else .ok shown

/-- Writes a number with one section. The search for an exponent, which may not end, reads nothing
by position. -/
def formatSection (culture : Culture) (ts : List Token) (n : Number) (withMinus : Bool) :
    Checked (Option Text) := do
  let layout ← layout ts
  match scaled? ts n with
  | none => return none
  | some (n, exponent) =>
    let f := n.fixed layout.maxFraction
    let whole ← padWhole layout.minInteger f.whole
    let grouped ← group culture.groupSeparator whole
    let d : Digits := ⟨whole, trimFraction layout.minFraction f.fraction, exponent⟩
    let text ← emit culture layout d grouped false 0 0 ts
    return some (withSign (withMinus && f.negative) text)

/-- The section of a pattern that writes a number; there is always a first one. -/
def choose (pattern : Text) (n : Number) : Checked Choice := do
  let ts ← tokens pattern
  let sections := Token.sections ts
  let second := sections[1]?.getD []
  let third := sections[2]?.getD []
  if n.isNegative ∧ second ≠ [] then return ⟨second, n.abs, false⟩
  else if n.isZero ∧ third ≠ [] then return ⟨third, n, false⟩
  else return ⟨← element sections 0, n, true⟩

def custom (culture : Culture) (pattern : Text) (n : Number) : Checked (Option Text) := do
  let c ← choose pattern n
  formatSection culture c.tokens c.number c.withMinus

section Section

variable {culture : Culture} {layout : Layout} {d : Digits}

theorem placeText_eq_ok {k : Nat} (hk : k < layout.places) :
    placeText layout (Number.group culture.groupSeparator d.whole) d.whole k =
      .ok (Number.placeText culture layout d k) := by
  unfold placeText Number.placeText
  split
  · rfl
  · rw [minus_eq_ok hk.le, bind_ok]
    obtain ⟨whole, hwhole⟩ : ∃ whole, d.whole = whole := ⟨_, rfl⟩
    rw [hwhole]
    unfold digitsAt
    dsimp only
    split
    · next hposition =>
        have hindex : ((whole.length : Int) - (layout.places - k : Nat)).toNat =
            whole.length + k - layout.places := by
          omega
        have hlt : whole.length + k - layout.places < whole.length := by omega
        rw [unsigned_eq_ok hposition, bind_ok, hindex]
        split
        · next hzero =>
            rw [front_eq_ok hlt]
            congr 2
            omega
        · next hzero =>
            rw [element_eq_ok hlt, map_ok, if_pos (by omega), List.drop_eq_getElem_cons hlt,
              List.take_succ_cons, List.take_zero]
    · next hposition =>
        split
        · next hzero =>
            have hnone : whole.length + 1 - layout.places = 0 := by omega
            rw [hnone]
            rfl
        · next hzero =>
            rw [if_neg (by omega)]
            rfl

/-- Behind the point nothing is read but fraction digits that are there. -/
theorem emit_behindPoint (grouped : Text) (k seen : Nat) (ts : List Token) :
    emit culture layout d grouped true k seen ts = .ok (fractionTexts d seen ts).flatten := by
  induction ts generalizing seen with
  | nil => rfl
  | cons t ts ih =>
      unfold emit fractionTexts
      split
      · rw [if_pos rfl, ih, bind_ok, List.flatten_cons, List.take_one, List.head?_drop]
        rfl
      · rw [if_neg (by simp), ih, bind_ok]
        rfl

/-- The places that are left are those that the rest of the section has. -/
theorem emit_eq_ok {k : Nat} {ts : List Token}
    (hk : k + ((Token.integerPart ts).filter Token.isDigit).length = layout.places) :
    emit culture layout d (Number.group culture.groupSeparator d.whole) false k 0 ts =
      .ok (emitInteger culture layout d k ts) := by
  rw [← flatten_tokenTexts]
  induction ts generalizing k with
  | nil => rfl
  | cons t ts ih =>
      by_cases ht : t = .point
      · subst ht
        have hdigit : Token.point.isDigit = false := rfl
        rw [emit, tokenTexts, hdigit, if_neg Bool.false_ne_true, if_neg Bool.false_ne_true,
          if_pos ⟨rfl, rfl⟩, if_pos rfl, emit_behindPoint, bind_ok]
        rfl
      · have hpart : Token.integerPart (t :: ts) = t :: Token.integerPart ts := by
          simp [Token.integerPart, ht]
        rw [hpart] at hk
        rw [emit, tokenTexts]
        cases hdigit : t.isDigit with
        | true =>
            rw [List.filter_cons_of_pos hdigit, List.length_cons] at hk
            have hplace := @placeText_eq_ok culture layout d k (by omega)
            rw [if_pos rfl, if_pos rfl, if_neg Bool.false_ne_true, hplace, bind_ok, ih (by omega),
              bind_ok]
            rfl
        | false =>
            rw [List.filter_cons_of_neg (by simp [hdigit])] at hk
            rw [if_neg Bool.false_ne_true, if_neg Bool.false_ne_true, if_neg fun h => ht h.1,
              if_neg ht, ih hk, bind_ok]
            rfl

theorem padWhole_eq_ok {whole : Text} (hwhole : whole.IsSingleByte) (minInteger : Nat) :
    padWhole minInteger whole = .ok (Number.padWhole minInteger whole) := by
  obtain ⟨shown, hshown⟩ : ∃ shown : Text, (if whole = ['0'] then [] else whole) = shown := ⟨_, rfl⟩
  have hsingle : shown.IsSingleByte := by
    rw [← hshown]
    split
    · exact nofun
    · exact hwhole
  rw [padWhole, Number.padWhole, hshown, List.leftpad, hsingle.byteSize_eq]
  split
  · next hlt =>
      rw [minus_eq_ok hlt.le]
      rfl
  · next hge =>
      have hnone : minInteger - shown.length = 0 := by omega
      rw [hnone]
      rfl

theorem isSingleByte_padWhole {whole : Text} (hwhole : whole.IsSingleByte) (minInteger : Nat) :
    (Number.padWhole minInteger whole).IsSingleByte := by
  unfold Number.padWhole List.leftpad
  refine (Text.isSingleByte_replicate_zero _).append ?_
  split
  · exact nofun
  · exact hwhole

theorem formatSection_eq_ok (culture : Culture) (ts : List Token) (n : Number) (withMinus : Bool) :
    formatSection culture ts n withMinus = .ok (formatSection? culture ts n withMinus) := by
  unfold formatSection formatSection?
  rw [layout_eq_ok, bind_ok]
  cases scaled? ts n with
  | none => rfl
  | some scaled =>
      obtain ⟨m, exponent⟩ := scaled
      have hwhole := isSingleByte_whole_fixed m (Layout.ofTokens ts).maxFraction
      have hplaces : 0 + ((Token.integerPart ts).filter Token.isDigit).length =
          (Layout.ofTokens ts).places := Nat.zero_add _
      dsimp only
      rw [padWhole_eq_ok hwhole, bind_ok, group_eq_ok (isSingleByte_padWhole hwhole _), bind_ok,
        emit_eq_ok hplaces]
      rfl

end Section

/-! ## Formats -/

theorem sections_ne_nil (ts : List Token) : Token.sections ts ≠ [] := by
  cases ts with
  | nil => exact List.cons_ne_nil _ _
  | cons t ts =>
      unfold Token.sections
      split
      · exact List.cons_ne_nil _ _
      · split <;> exact List.cons_ne_nil _ _

theorem choose_eq_ok (pattern : Text) (n : Number) :
    choose pattern n = .ok (Number.choose pattern n) := by
  obtain ⟨first, others, hsections⟩ :=
    List.exists_cons_of_ne_nil (sections_ne_nil (Token.ofText pattern))
  unfold choose Number.choose
  rw [tokens_eq_ok, bind_ok, hsections]
  dsimp only
  split
  · rfl
  · split <;> rfl

theorem custom_eq_ok (culture : Culture) (pattern : Text) (n : Number) :
    custom culture pattern n = .ok (custom? culture pattern n) := by
  rw [custom, choose_eq_ok, bind_ok, formatSection_eq_ok]
  rfl

def formatFinite (culture : Culture) (format : Text) (n : Number) :
    Checked (Option (Except FormatFault Text)) :=
  match standard? format with
  | some (letter, precision) =>
    match precision? precision with
    | .ok precision => some <$> standard culture n letter precision
    | .error fault => .ok (some (.error fault))
  | none => (fun text => text.map .ok) <$> custom culture format n

def formatNumber (culture : Culture) (format : Text) :
    Number → Checked (Option (Except FormatFault Text))
  | float .nan => .ok (some (.ok "NaN"))
  | float (.infinite negative) => .ok (some (.ok (withSign negative "∞")))
  | n => formatFinite culture format n

theorem formatFinite_eq_ok (culture : Culture) (format : Text) (n : Number) :
    formatFinite culture format n = .ok (Number.formatFinite culture format n) := by
  unfold formatFinite Number.formatFinite
  cases standard? format with
  | none =>
      dsimp only
      rw [custom_eq_ok, map_ok]
  | some parts =>
      unfold formatStandard
      cases hprecision : precision? parts.2 with
      | ok precision =>
          dsimp only
          rw [hprecision]
          dsimp only
          rw [standard_eq_ok, map_ok]
      | error fault =>
          dsimp only
          rw [hprecision]

theorem formatNumber_eq_ok (culture : Culture) (format : Text) (n : Number) :
    formatNumber culture format n = .ok (Number.format culture format n) := by
  match n with
  | integer i => exact formatFinite_eq_ok culture format _
  | float .nan => rfl
  | float (.infinite _) => rfl
  | float (.finite x) => exact formatFinite_eq_ok culture format _

end Phrasebook.Checked
