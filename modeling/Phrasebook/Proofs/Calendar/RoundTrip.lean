import Phrasebook.Proofs.Calendar.Fields
import Phrasebook.Proofs.Calendar.Runs

/-!
# Reading dates back

The formats that are meant to be read back write fields of fixed width with quoted separators, so
they are the same in every culture. The text is read as the moment that was written, up to the
precision of the format.
-/

namespace Phrasebook.Moment

open DatePattern (Piece)

/-! ## What the formats write -/

def datePieces : List Piece := [.year 4, .literal "-", .month 2, .literal "-", .day 2]

def timePieces : List Piece :=
  [.hour true, .literal ":", .minute true, .literal ":", .second true]

theorem writeAll_append_of_eq_ok {culture : Culture} {m : Moment} {written : Text} {ps : List Piece}
    {s : Text} (h : m.writeAll culture written ps = .ok s) (qs : List Piece) :
    m.writeAll culture written (ps ++ qs) = m.writeAll culture s qs := by
  rw [writeAll_append, h]
  rfl

section Written

variable (culture : Culture) (m : Moment) (written : Text)

theorem writeAll_datePieces :
    m.writeAll culture written datePieces = .ok (written ++ dateText m.date) := by
  simp [datePieces, writeAll, write, yearText, monthText, dayText, dateText]

theorem writeAll_timePieces :
    m.writeAll culture written timePieces = .ok (written ++ timeText m.time) := by
  simp [timePieces, writeAll, write, twoDigits, timeText]

/-- A day, a separator and a time are written alike in every culture. -/
theorem custom_dateTime {pattern : Text} (separator : Text) (rest : List Piece)
    (hpattern : DatePattern.ofText pattern =
      datePieces ++ .literal separator :: (timePieces ++ rest)) :
    custom culture m pattern =
      m.writeAll culture (dateText m.date ++ (separator ++ timeText m.time)) rest := by
  have hdate := writeAll_append_of_eq_ok (writeAll_datePieces culture m [])
    (.literal separator :: (timePieces ++ rest))
  have htime := writeAll_append_of_eq_ok
    (writeAll_timePieces culture m (dateText m.date ++ separator)) rest
  rw [custom, hpattern, hdate, List.nil_append]
  simp only [writeAll, write]
  rw [htime, List.append_assoc]

theorem format_sortable :
    m.format culture "s" = .ok (dateText m.date ++ 'T' :: timeText m.time) :=
  custom_dateTime .invariant m "T" [] (by decide)

theorem format_roundTrip {letter : Char} (hletter : letter = 'O' ∨ letter = 'o') :
    m.format culture [letter] =
      .ok (dateText m.date ++ 'T' :: (timeText m.time ++
        '.' :: (m.fractionDigits 7 ++ zoneText m.offset))) := by
  have hcustom : custom .invariant m "yyyy'-'MM'-'dd'T'HH':'mm':'ss'.'fffffffK" = _ :=
    custom_dateTime .invariant m "T" [.literal ".", .fraction 7, .zone] (by decide)
  have hformat : m.format culture [letter] =
      custom .invariant m "yyyy'-'MM'-'dd'T'HH':'mm':'ss'.'fffffffK" := by
    rcases hletter with rfl | rfl <;> rfl
  rw [hformat, hcustom]
  simp [writeAll, write, maxFractionDigits]

end Written

/-! ## Fractions and offsets -/

theorem fractionDigits_seven (m : Moment) :
    m.fractionDigits 7 = paddedDigits 7 (m.time.fractionOfSecond / 100) := by
  have hlt := m.time.fractionOfSecond_lt
  have hlength := length_paddedDigits_eq (n := m.time.fractionOfSecond / 10 ^ 2)
    (by decide : 0 < 7) (by omega)
  have hsplit := paddedDigits_add (j := 7) (k := 2) (by decide) (by decide) hlt
  rw [fractionDigits, hsplit]
  exact List.take_left' hlength

theorem head?_zoneText (offset : Option Offset) {c : Char}
    (h : (zoneText offset).head? = some c) : c = 'Z' ∨ c = '+' ∨ c = '-' := by
  cases offset with
  | none => cases h
  | some offset =>
      by_cases hzero : offset.minutes = 0
      · rw [zoneText, if_pos hzero] at h
        exact .inl (Option.some.inj h).symm
      · simp only [zoneText, if_neg hzero, offsetText, List.head?_cons, Option.some.injEq] at h
        split at h
        · exact .inr (.inr h.symm)
        · exact .inr (.inl h.symm)

theorem readFraction_fractionDigits (m : Moment) :
    readFraction ('.' :: (m.fractionDigits 7 ++ zoneText m.offset)) =
      some (m.time.fractionOfSecond / 100 * 100, zoneText m.offset) := by
  have hlt := m.time.fractionOfSecond_lt
  rw [fractionDigits_seven]
  apply readFraction_paddedDigits (by decide) (by omega) (by decide)
  intro c hc
  rcases head?_zoneText m.offset hc with rfl | rfl | rfl <;> rfl

/-! ## Reading the text -/

theorem parse?_of_timestamp? {s : Text} {m : Moment} (h : timestamp? s = some m) :
    parse? s = some m := by
  simp [parse?, h]

/-- A day, the letter `T` and a time without an offset are no timestamp, and are read as they
stand. -/
theorem parse?_dateTime {d : Date} (hd : HasPlainYear d) (t : TimeOfDay) {s : Text}
    {nanosecond : Nat} (hnanosecond : nanosecond < 1000000000)
    (hs : readFraction s = some (nanosecond, [])) :
    parse? (dateText d ++ 'T' :: (timeText t ++ s)) =
      some ⟨d, t.withNanosecond nanosecond hnanosecond, none⟩ := by
  have hstamp := timestamp?_eq_none hd t (.inl rfl) hs
  have hdate := readDate_dateText hd ('T' :: (timeText t ++ s))
  have htime := fullTime?_timeText t s hnanosecond hs
  simp [parse?, hstamp, hdate, timeBehindDate?, htime]

/-- The formats `O` and `s` write a moment alike in every culture, and their texts are read back:
`O` keeps the offset and seven digits of the second, `s` only the local time in whole seconds. -/
theorem parse?_format {m : Moment} (hyear : HasPlainYear m.date) :
    (∀ letter ∈ ['O', 'o'], ∃ s, (∀ culture, m.format culture [letter] = .ok s) ∧
      parse? s = some ⟨m.date, m.time.truncate 100, m.offset⟩) ∧
    ∃ s, (∀ culture, m.format culture "s" = .ok s) ∧
      parse? s = some ⟨m.date, m.time.truncate 1000000000, none⟩ := by
  have hlt := m.time.fractionOfSecond_lt
  constructor
  · intro letter hletter
    refine ⟨_, fun culture => format_roundTrip culture m (by simpa using hletter), ?_⟩
    have hfraction := readFraction_fractionDigits m
    cases hoffset : m.offset with
    | none =>
        rw [hoffset] at hfraction
        exact parse?_dateTime hyear m.time (by omega) hfraction
    | some offset =>
        rw [hoffset] at hfraction
        exact parse?_of_timestamp? (timestamp?_eq_some hyear m.time (.inl rfl) (by omega)
          hfraction (readOffset_zoneText offset))
  · refine ⟨_, fun culture => format_sortable culture m, ?_⟩
    have hread := parse?_dateTime hyear m.time (s := []) (by decide : 0 < 1000000000) rfl
    rw [List.append_nil] at hread
    rw [TimeOfDay.truncate_second, hread]

/-- A leap second of year 0, half an hour west. -/
theorem parse?_format_leapSecond :
    let m : Moment :=
      ⟨⟨0, 1, 29, by decide, by decide⟩, ⟨23, 59, 59, 1123456789⟩, some ⟨-30, by decide⟩⟩
    parse? "0000-02-29t23:59:60.1234567891-00:30" = some m ∧ HasPlainYear m.date ∧
      (∃ s, (∀ culture, m.format culture "O" = .ok s) ∧
        parse? s = some ⟨m.date, ⟨23, 59, 59, 123456700⟩, m.offset⟩) ∧
      ∃ s, (∀ culture, m.format culture "s" = .ok s) ∧
        parse? s = some ⟨m.date, ⟨23, 59, 59, 0⟩, none⟩ := by
  have hyear : HasPlainYear ⟨0, 1, 29, by decide, by decide⟩ := ⟨by decide, by decide⟩
  refine ⟨by decide, hyear, (parse?_format hyear).1 'O' (by decide), (parse?_format hyear).2⟩

end Phrasebook.Moment
