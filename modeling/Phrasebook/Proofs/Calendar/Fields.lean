import Phrasebook.Calendar.Format
import Phrasebook.Calendar.Reader
import Phrasebook.Proofs.Calendar.Days
import Phrasebook.Proofs.Decimal.Digits
import Phrasebook.Proofs.Locale.Subtags

/-!
# Fields of fixed width

A date, a time, a fraction and an offset that are written in fields of fixed width are read back,
whatever text follows them.
-/

namespace Phrasebook

theorem Date.ofNumbers?_self (d : Date) :
    Date.ofNumbers? d.year (d.month.val + 1) d.day = some d := by
  have hmonth : 0 < d.month.val + 1 ∧ d.month.val + 1 ≤ 12 := by omega
  have hday : 0 < d.day ∧ d.day ≤ Calendar.daysInMonth d.year d.month := ⟨d.day_pos, d.day_le⟩
  rw [Date.ofNumbers?, dif_pos hmonth]
  exact dif_pos hday

theorem Date.day_lt (d : Date) : d.day < 10 ^ 2 := by
  have hle := d.day_le
  have hmost := Date.daysInMonth_le d.year d.month
  omega

namespace TimeOfDay

theorem fractionOfSecond_lt (t : TimeOfDay) : t.fractionOfSecond < 10 ^ 9 :=
  Nat.mod_lt _ (by decide)

/-- The time cut down to a multiple of `unit` nanoseconds within its second. A leap second, which
runs on from the end of second 59, is taken as second 59. -/
def truncate (t : TimeOfDay) (unit : Nat) : TimeOfDay :=
  { t with
    nanosecond := ⟨t.fractionOfSecond / unit * unit, by
      have hcut := Nat.div_mul_le_self t.fractionOfSecond unit
      have hlt := t.fractionOfSecond_lt
      omega⟩ }

/-- The time with another part of its second, which is no leap second. -/
def withNanosecond (t : TimeOfDay) (nanosecond : Nat) (h : nanosecond < 1000000000) : TimeOfDay :=
  { t with nanosecond := ⟨nanosecond, by omega⟩ }

theorem truncate_second (t : TimeOfDay) :
    t.truncate 1000000000 = t.withNanosecond 0 (by decide) := by
  simp only [truncate, withNanosecond, Nat.div_eq_of_lt t.fractionOfSecond_lt, Nat.zero_mul]

end TimeOfDay

namespace Moment

/-! ## Numbers -/

theorem readDigits_append {most : Nat} {row s : Text} (hrow : ∀ c ∈ row, c.isDigit = true)
    (hne : row ≠ []) (hle : row.length ≤ most)
    (hstop : row.length = most ∨ ∀ c, s.head? = some c → c.isDigit = false) :
    readDigits most (row ++ s) = some (row, s) := by
  have hrest : (s.take (most - row.length)).takeWhile Char.isDigit = [] := by
    rcases hstop with hfull | hhead
    · simp [hfull]
    · cases s with
      | nil => simp
      | cons c s =>
          cases hcount : most - row.length with
          | zero => rfl
          | succ count => simp [hhead c rfl]
  have htaken : ((row ++ s).take most).takeWhile Char.isDigit = row := by
    rw [List.take_append, List.take_of_length_le hle, List.takeWhile_append_of_pos hrow, hrest,
      List.append_nil]
  unfold readDigits
  rw [htaken]
  split
  · exact (hne rfl).elim
  · rw [List.drop_left]

section Padded

variable {width n : Nat} (hwidth : 0 < width) (hn : n < 10 ^ width)
include hwidth hn

theorem paddedDigits_eq_cons : ∃ c row, paddedDigits width n = c :: row ∧ c.isDigit = true := by
  have hlength := length_paddedDigits_eq hwidth hn
  cases h : paddedDigits width n with
  | nil =>
      rw [h, List.length_nil] at hlength
      omega
  | cons c row => exact ⟨c, row, rfl, isDigit_of_mem_paddedDigits (h ▸ List.mem_cons_self)⟩

theorem readDigits_paddedDigits {most : Nat} (hle : width ≤ most) {s : Text}
    (hstop : width = most ∨ ∀ c, s.head? = some c → c.isDigit = false) :
    readDigits most (paddedDigits width n ++ s) = some (paddedDigits width n, s) := by
  have hlength := length_paddedDigits_eq hwidth hn
  obtain ⟨c, row, hrow, -⟩ := paddedDigits_eq_cons hwidth hn
  apply readDigits_append (fun c => isDigit_of_mem_paddedDigits)
  · simp [hrow]
  · rwa [hlength]
  · rwa [hlength]

theorem trimStart_paddedDigits (s : Text) :
    Text.trimStart (paddedDigits width n ++ s) = paddedDigits width n ++ s := by
  obtain ⟨c, row, hrow, hc⟩ := paddedDigits_eq_cons hwidth hn
  have hfirm := LanguageTag.isBlank_of_isAlphanum (by simp [Char.isAlphanum, hc] : c.isAlphanum)
  simp [Text.trimStart, hrow, hfirm]

theorem readFixed_paddedDigits (s : Text) :
    readFixed width (paddedDigits width n ++ s) = some (n, s) := by
  have hlength := length_paddedDigits_eq hwidth hn
  have hread := readDigits_paddedDigits hwidth hn (Nat.le_refl width) (s := s) (.inl rfl)
  simp [readFixed, hread, hlength, valueOf_paddedDigits]

theorem readNumber_paddedDigits (s : Text) :
    readNumber width (paddedDigits width n ++ s) = some (n, s) := by
  have hread := readDigits_paddedDigits hwidth hn (Nat.le_refl width) (s := s) (.inl rfl)
  simp [readNumber, trimStart_paddedDigits hwidth hn, hread, valueOf_paddedDigits]

/-- A fraction of at most nine digits counts nanoseconds. -/
theorem readFraction_paddedDigits (hle : width ≤ 9) {s : Text}
    (hstop : ∀ c, s.head? = some c → c.isDigit = false) :
    readFraction ('.' :: (paddedDigits width n ++ s)) = some (n * 10 ^ (9 - width), s) := by
  have hlength := length_paddedDigits_eq hwidth hn
  have hread := readDigits_paddedDigits hwidth hn hle (.inr hstop)
  have hrest : s.dropWhile Char.isDigit = s := by
    cases s with
    | nil => rfl
    | cons c s => simp [hstop c rfl]
  simp [readFraction, readNanoseconds, hread, hlength, valueOf_paddedDigits, hrest]

end Padded

@[simp] theorem readChar_cons (c : Char) (s : Text) : readChar c (c :: s) = some s := by
  simp [readChar]

/-! ## Days -/

/-- A day in fields of fixed width. -/
def dateText (d : Date) : Text :=
  paddedInteger 4 d.year ++
    '-' :: (paddedDigits 2 (d.month.val + 1) ++ '-' :: paddedDigits 2 d.day)

/-- The years of four digits. -/
def HasPlainYear (d : Date) : Prop := 0 ≤ d.year ∧ d.year ≤ 9999

theorem HasPlainYear.natAbs_lt {d : Date} (h : HasPlainYear d) : d.year.natAbs < 10 ^ 4 := by
  obtain ⟨hlow, hhigh⟩ := h
  omega

theorem HasPlainYear.paddedInteger_eq {d : Date} (h : HasPlainYear d) :
    paddedInteger 4 d.year = paddedDigits 4 d.year.natAbs := by
  rw [paddedInteger, if_neg (Int.not_lt.2 h.1)]

theorem readYear_paddedDigits {n : Nat} (hn : n < 10 ^ 4) (s : Text) :
    readYear (paddedDigits 4 n ++ s) = some ((n : Int), s) := by
  obtain ⟨c, row, hrow, hc⟩ := paddedDigits_eq_cons (by decide) hn
  have hread := readDigits_paddedDigits (by decide) hn (Nat.le_refl 4) (s := s) (.inl rfl)
  unfold readYear
  rw [trimStart_paddedDigits (by decide) hn]
  split
  · next heq =>
      rw [hrow, List.cons_append, List.cons.injEq] at heq
      rw [heq.1] at hc
      cases hc
  · next heq =>
      rw [hrow, List.cons_append, List.cons.injEq] at heq
      rw [heq.1] at hc
      cases hc
  · simp [hread, valueOf_paddedDigits]

theorem readDate_dateText {d : Date} (hd : HasPlainYear d) (s : Text) :
    readDate (dateText d ++ s) = some (d, s) := by
  have hyear := readYear_paddedDigits hd.natAbs_lt
  have hmonth := readNumber_paddedDigits (n := d.month.val + 1) (by decide : 0 < 2) (by omega)
  have hday := readNumber_paddedDigits (by decide : 0 < 2) d.day_lt
  have habs : (d.year.natAbs : Int) = d.year := Int.natAbs_of_nonneg hd.1
  have hrange : isYear d.year = true := by
    have hhigh := hd.2
    simp only [isYear, Bool.and_eq_true, decide_eq_true_eq]
    omega
  simp [readDate, dateText, hd.paddedInteger_eq, List.append_assoc, hyear, hmonth, hday, habs,
    Date.ofNumbers?_self, hrange]

/-! ## Times -/

/-- A time without its fraction in fields of fixed width. -/
def timeText (t : TimeOfDay) : Text :=
  paddedDigits 2 t.hour.val ++
    ':' :: (paddedDigits 2 t.minute.val ++ ':' :: paddedDigits 2 t.second.val)

theorem time?_self (t : TimeOfDay) {nanosecond : Nat} (h : nanosecond < 1000000000) :
    time? t.hour t.minute t.second nanosecond = some (t.withNanosecond nanosecond h) := by
  have hsecond := t.second.isLt
  rw [time?, dif_pos ⟨t.hour.isLt, t.minute.isLt, by omega, h⟩, dif_pos hsecond]
  rfl

section Times

variable (t : TimeOfDay) (s : Text)

theorem readClock_timeText :
    readClock (timeText t ++ s) =
      some ((t.hour.val, t.minute.val), ':' :: (paddedDigits 2 t.second.val ++ s)) := by
  have hhour := readNumber_paddedDigits (n := t.hour.val) (by decide : 0 < 2) (by omega)
  have hminute := readNumber_paddedDigits (n := t.minute.val) (by decide : 0 < 2) (by omega)
  simp [readClock, timeText, List.append_assoc, hhour, hminute]

/-- Behind a time without its fraction, the fraction is read and nothing else. -/
theorem fullTime?_timeText {nanosecond : Nat} (h : nanosecond < 1000000000)
    (hs : readFraction s = some (nanosecond, [])) :
    fullTime? (timeText t ++ s) = some (t.withNanosecond nanosecond h) := by
  have hsecond := readNumber_paddedDigits (n := t.second.val) (by decide : 0 < 2) (by omega)
  simp [fullTime?, readClock_timeText, hsecond, hs, time?_self t h]

end Times

/-! ## Offsets -/

section Offsets

variable {hours minutes : Nat} (hminutes : minutes < 60) (hday : hours * 60 + minutes < 1440)
include hminutes hday

theorem readOffset_east :
    readOffset ('+' :: (paddedDigits 2 hours ++ ':' :: paddedDigits 2 minutes)) =
      some (⟨(hours * 60 + minutes : Nat), by omega⟩, []) := by
  have hhour := readFixed_paddedDigits (n := hours) (by decide : 0 < 2) (by omega)
  have hminute := readFixed_paddedDigits (n := minutes) (by decide : 0 < 2) (by omega) []
  rw [List.append_nil] at hminute
  simp [readOffset, hhour, hminute, hminutes, hday]

theorem readOffset_west :
    readOffset ('-' :: (paddedDigits 2 hours ++ ':' :: paddedDigits 2 minutes)) =
      some (⟨-(hours * 60 + minutes : Nat), by omega⟩, []) := by
  have hhour := readFixed_paddedDigits (n := hours) (by decide : 0 < 2) (by omega)
  have hminute := readFixed_paddedDigits (n := minutes) (by decide : 0 < 2) (by omega) []
  rw [List.append_nil] at hminute
  simp [readOffset, hhour, hminute, hminutes, hday]

end Offsets

theorem readOffset_zoneText (offset : Offset) :
    readOffset (zoneText (some offset)) = some (offset, []) := by
  obtain ⟨east, hday⟩ := offset
  by_cases hzero : east = 0
  · subst hzero
    rfl
  have hminutes : east.natAbs % 60 < 60 := Nat.mod_lt _ (by decide)
  have hsplit : east.natAbs / 60 * 60 + east.natAbs % 60 = east.natAbs := Nat.div_add_mod' _ _
  by_cases hwest : east < 0
  · have hread := readOffset_west hminutes (hsplit.symm ▸ hday)
    simp only [zoneText, hzero, if_false, offsetText, hwest, if_true]
    rw [hread]
    simp only [hsplit, Option.some.injEq, Prod.mk.injEq, Offset.mk.injEq, and_true]
    omega
  · have hread := readOffset_east hminutes (hsplit.symm ▸ hday)
    simp only [zoneText, hzero, if_false, offsetText, hwest]
    rw [hread]
    simp only [hsplit, Option.some.injEq, Prod.mk.injEq, Offset.mk.injEq, and_true]
    omega

/-! ## Timestamps -/

theorem readFixed_bind {α : Type} {width n : Nat} (hwidth : 0 < width) (hn : n < 10 ^ width)
    (s : Text) (rest : Nat × Text → Option α) :
    (readFixed width (paddedDigits width n ++ s) >>= rest) = rest (n, s) := by
  rw [readFixed_paddedDigits hwidth hn, Option.bind_eq_bind, Option.bind_some]

theorem readChar_bind {α : Type} (c : Char) (s : Text) (rest : Text → Option α) :
    (readChar c (c :: s) >>= rest) = rest s := by
  rw [readChar_cons, Option.bind_eq_bind, Option.bind_some]

/-- A day and a time in fields of fixed width leave the fraction and the offset to be read. -/
theorem timestamp?_text {d : Date} (hd : HasPlainYear d) (t : TimeOfDay) {c : Char}
    (hc : c = 'T' ∨ c = ' ') (s : Text) :
    timestamp? (dateText d ++ c :: (timeText t ++ s)) = (do
      let (nanosecond, s) ← readFraction s
      let (offset, s) ← readOffset s
      if s.isEmpty then do
        let date ← Date.ofNumbers? d.year (d.month.val + 1) d.day
        let time ← time? t.hour t.minute t.second nanosecond
        some ⟨date, time, some offset⟩
      else none) := by
  have hrow : dateText d ++ c :: (timeText t ++ s) =
      paddedDigits 4 d.year.natAbs ++ '-' :: (paddedDigits 2 (d.month.val + 1) ++
        '-' :: (paddedDigits 2 d.day ++ c :: (paddedDigits 2 t.hour.val ++
          ':' :: (paddedDigits 2 t.minute.val ++ ':' :: (paddedDigits 2 t.second.val ++ s))))) := by
    simp [dateText, timeText, hd.paddedInteger_eq]
  have habs : (d.year.natAbs : Int) = d.year := Int.natAbs_of_nonneg hd.1
  have hseparator : ∀ s (rest : Text → Option Moment),
      ((readChar 'T' (c :: s) <|> readChar 't' (c :: s) <|> readChar ' ' (c :: s)) >>= rest) =
        rest s := by
    intro s rest
    rcases hc with rfl | rfl <;> simp [readChar]
  rw [hrow, timestamp?, readFixed_bind (by decide) hd.natAbs_lt]
  dsimp only
  rw [readChar_bind, readFixed_bind (by decide) (by omega)]
  dsimp only
  rw [readChar_bind, readFixed_bind (by decide) d.day_lt]
  dsimp only
  rw [hseparator, readFixed_bind (by decide) (by omega)]
  dsimp only
  rw [readChar_bind, readFixed_bind (by decide) (by omega)]
  dsimp only
  rw [readChar_bind, readFixed_bind (by decide) (by omega)]
  dsimp only
  rw [habs]

section Rest

variable {d : Date} (hd : HasPlainYear d) (t : TimeOfDay) {c : Char} (hc : c = 'T' ∨ c = ' ')
include hd hc

theorem timestamp?_eq_some {nanosecond : Nat} (hnanosecond : nanosecond < 1000000000)
    {s rest : Text} {offset : Offset} (hs : readFraction s = some (nanosecond, rest))
    (hrest : readOffset rest = some (offset, [])) :
    timestamp? (dateText d ++ c :: (timeText t ++ s)) =
      some ⟨d, t.withNanosecond nanosecond hnanosecond, some offset⟩ := by
  rw [timestamp?_text hd t hc]
  simp [hs, hrest, Date.ofNumbers?_self, time?_self t hnanosecond]

theorem timestamp?_eq_none {nanosecond : Nat} {s : Text}
    (hs : readFraction s = some (nanosecond, [])) :
    timestamp? (dateText d ++ c :: (timeText t ++ s)) = none := by
  rw [timestamp?_text hd t hc]
  simp [hs, readOffset]

end Rest

end Moment

end Phrasebook
