import Phrasebook.Proofs.Calendar.Composition
import Phrasebook.Proofs.Calendar.Fields
import Phrasebook.Proofs.Checked.Access

/-!
# Dates, written by position

The pieces of a date pattern are read from position to position and written as they are read. Names
are taken from their tables by the number of the month or the day of the week, and a fraction is cut
out of nine digits. All of these are in range, so also behind a quote that is not closed and a
backslash at the end.
-/

namespace Phrasebook.Checked

open DatePattern (Piece)
open Moment

/-! ## Pieces -/

/-- The piece at a position, and the position behind it. -/
def piece (chars : Text) (position : Nat) : Checked (Piece × Nat) := do
  let c ← element chars position
  let run := (← back chars position).takeWhile (· == c)
  match c with
  | '\'' | '"' =>
    let quoted := (← back chars (position + 1)).takeWhile (· != c)
    return (.literal quoted, position + (quoted.length + 2))
  | '\\' => return (.literal chars[position + 1]?.toList, position + 2)
  | c =>
    let (p, count) := DatePattern.step c run.tail
    return (p, position + (count + 1))

theorem piece_eq_ok {chars : Text} {position : Nat} (h : position < chars.length) :
    piece chars position =
      .ok ((DatePattern.step chars[position] (chars.drop (position + 1))).1,
        position + ((DatePattern.step chars[position] (chars.drop (position + 1))).2 + 1)) := by
  have hback : back chars (position + 1) = .ok (chars.drop (position + 1)) := back_eq_ok h
  have hquote : ∀ mark : Char, mark = '\'' ∨ mark = '"' → ∀ s, DatePattern.step mark s =
      (.literal (s.takeWhile (· != mark)), (s.takeWhile (· != mark)).length + 1) := by
    rintro mark (rfl | rfl) s <;> rfl
  unfold piece
  rw [element_eq_ok h, bind_ok, back_eq_ok h.le, bind_ok, List.drop_eq_getElem_cons h]
  generalize chars[position] = c
  dsimp only
  split
  · rw [hback, bind_ok, hquote _ (.inl rfl)]
    rfl
  · rw [hback, bind_ok, hquote _ (.inr rfl)]
    rfl
  · simp [DatePattern.step, List.take_one]
  · next hsingle hdouble hescape =>
      have hrun : ((c :: chars.drop (position + 1)).takeWhile (· == c)).tail =
          (chars.drop (position + 1)).takeWhile (· == c) := by
        rw [List.takeWhile_cons, beq_self_eq_true, if_pos rfl, List.tail_cons]
      have hstep : DatePattern.step c ((chars.drop (position + 1)).takeWhile (· == c)) =
          DatePattern.step c (chars.drop (position + 1)) :=
        DatePattern.step_congr ⟨hsingle, hdouble, hescape⟩
          (List.takeWhile_eq_self_iff.2 fun _ => List.mem_takeWhile_imp (p := (· == c)))
      rw [hrun, hstep]
      rfl

/-! ## Writing -/

/-- A name of the day of the week, or its number in the month. -/
def dayText (culture : Culture) (d : Date) : (run : Nat) → Checked Text
  | 1 => .ok (digits d.day)
  | 2 => .ok (paddedDigits 2 d.day)
  | 3 => element culture.names.abbreviatedDays.toList d.weekday
  | _ => element culture.names.days.toList d.weekday

def monthText (culture : Culture) (d : Date) : (run : Nat) → Checked Text
  | 1 => .ok (digits (d.month.val + 1))
  | 2 => .ok (paddedDigits 2 (d.month.val + 1))
  | 3 => element culture.names.abbreviatedMonths.toList d.month
  | _ => element culture.names.months.toList d.month

def fractionDigits (m : Moment) (run : Nat) : Checked Text :=
  frontBytes (paddedDigits 9 m.time.fractionOfSecond) run

/-- Writes one piece behind what is written so far; the pieces left out read nothing by
position. -/
def write (culture : Culture) (m : Moment) (written : Text) :
    Piece → Checked (Except FormatFault Text)
  | .day run => (fun text => .ok (written ++ text)) <$> dayText culture m.date run
  | .month run => (fun text => .ok (written ++ text)) <$> monthText culture m.date run
  | .fraction run =>
    if maxFractionDigits < run then .ok (.error .tooManyFractionDigits)
    else (fun text => .ok (written ++ text)) <$> fractionDigits m run
  | .trimmedFraction run =>
    if maxFractionDigits < run then .ok (.error .tooManyFractionDigits)
    else do
      let text ← fractionDigits m run
      match Text.dropEndWhile (· == '0') text with
      | [] => return .ok (dropPoint written)
      | trimmed => return .ok (written ++ trimmed)
  | p => .ok (m.write culture written p)

/-- Writes the pieces from a position on behind what is written so far. -/
def writeFrom (culture : Culture) (m : Moment) (chars : Text) (position : Nat) (written : Text) :
    Checked (Except FormatFault Text) :=
  if position < chars.length then do
    let (p, next) ← piece chars position
    match ← write culture m written p with
    | .ok written =>
      if position < next then writeFrom culture m chars next written else .error .standstill
    | .error fault => return .error fault
  else .ok (.ok written)
termination_by chars.length - position
decreasing_by omega

def customDate (culture : Culture) (m : Moment) (pattern : Text) :
    Checked (Except FormatFault Text) :=
  writeFrom culture m pattern 0 []

def formatMoment (culture : Culture) (m : Moment) (format : Text) :
    Checked (Except FormatFault Text) :=
  match format with
  | [letter] =>
    match standardPattern? culture letter with
    | some pattern =>
      customDate (standardCulture culture letter) (m.standardMoment letter) pattern
    | none => .ok (.error (.unknownDateLetter letter))
  | pattern => customDate culture m pattern

theorem element_toList {α : Type} {size : Nat} (names : Vector α size) (i : Fin size) :
    element names.toList i = .ok names[i] := by
  rw [element_eq_ok (by simp)]
  simp

theorem dayText_eq_ok (culture : Culture) (d : Date) (run : Nat) :
    dayText culture d run = .ok (Moment.dayText culture d run) := by
  match run with
  | 1 | 2 => rfl
  | 3 => exact element_toList _ _
  | 0 | _ + 4 => exact element_toList _ _

theorem monthText_eq_ok (culture : Culture) (d : Date) (run : Nat) :
    monthText culture d run = .ok (Moment.monthText culture d run) := by
  match run with
  | 1 | 2 => rfl
  | 3 => exact element_toList _ _
  | 0 | _ + 4 => exact element_toList _ _

/-- A fraction is cut out of nine digits, and no more than seven are asked for. -/
theorem fractionDigits_eq_ok (m : Moment) {run : Nat} (h : run ≤ maxFractionDigits) :
    fractionDigits m run = .ok (m.fractionDigits run) := by
  have hsingle : (paddedDigits 9 m.time.fractionOfSecond).IsSingleByte :=
    Text.isSingleByte_of_digits fun _ => isDigit_of_mem_paddedDigits
  have hlength : (paddedDigits 9 m.time.fractionOfSecond).length = 9 :=
    length_paddedDigits_eq (by decide) m.time.fractionOfSecond_lt
  have hle : run ≤ (paddedDigits 9 m.time.fractionOfSecond).length := by
    rw [hlength]
    exact Nat.le_trans h (by decide)
  exact frontBytes_eq_ok hsingle hle

theorem write_eq_ok (culture : Culture) (m : Moment) (written : Text) (p : Piece) :
    write culture m written p = .ok (m.write culture written p) := by
  cases p with
  | day run =>
      rw [write, dayText_eq_ok]
      rfl
  | month run =>
      rw [write, monthText_eq_ok]
      rfl
  | fraction run =>
      rw [write, Moment.write]
      split
      · rfl
      · next h =>
          rw [fractionDigits_eq_ok m (Nat.le_of_not_lt h)]
          rfl
  | trimmedFraction run =>
      rw [write, Moment.write]
      split
      · rfl
      · next h =>
          rw [fractionDigits_eq_ok m (Nat.le_of_not_lt h), bind_ok]
          cases Text.dropEndWhile (· == '0') (m.fractionDigits run) <;> rfl
  | _ => rfl

/-- From each position on the pieces are those of the text that is left. -/
theorem writeFrom_eq_ok (culture : Culture) (m : Moment) (chars : Text) (position : Nat)
    (written : Text) :
    writeFrom culture m chars position written =
      .ok (m.writeAll culture written (DatePattern.ofText (chars.drop position))) := by
  induction hleft : chars.length - position using Nat.strongRecOn
    generalizing position written with
  | ind left ih =>
      unfold writeFrom
      split
      · next h =>
          have hnext := fun count written =>
            ih (chars.length - (position + (count + 1))) (by omega) _ written rfl
          rw [List.drop_eq_getElem_cons h, DatePattern.ofText_cons, writeAll, piece_eq_ok h,
            bind_ok]
          dsimp only
          rw [write_eq_ok, bind_ok]
          cases m.write culture written (DatePattern.step chars[position] _).1 with
          | error fault => rfl
          | ok written =>
              dsimp only
              rw [if_pos (by omega), hnext, List.drop_drop]
              congr 4
              omega
      · next h =>
          rw [List.drop_of_length_le (by omega)]
          rfl

theorem formatMoment_eq_ok (culture : Culture) (m : Moment) (format : Text) :
    formatMoment culture m format = .ok (m.format culture format) := by
  have hcustom : ∀ culture m pattern,
      customDate culture m pattern = .ok (Moment.custom culture m pattern) :=
    fun culture m pattern => writeFrom_eq_ok culture m pattern 0 []
  match format with
  | [letter] =>
      rw [formatMoment, Moment.format]
      cases standardPattern? culture letter with
      | some pattern => exact hcustom _ _ _
      | none => rfl
  | [] => exact hcustom culture m []
  | first :: second :: rest => exact hcustom culture m (first :: second :: rest)

end Phrasebook.Checked
