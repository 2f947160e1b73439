import Phrasebook.Proofs.Calendar.RoundTrip

/-!
# Universal time

A moment stands for a point in time, counted in minutes from a day before all others of the
calendar. Moments at the same point in time have the same universal time, whatever their offsets, so
what universal formats write depends on nothing else.
-/

namespace Phrasebook

/-- A point in time: a minute, and the time within it. -/
@[ext]
structure Instant where
  minute : Int
  second : Fin 60
  nanosecond : Fin 2000000000
deriving DecidableEq

namespace Moment

/-- The point in time of a moment: its local time less its offset. A moment without an offset is
taken as universal time. -/
def instant (m : Moment) : Instant where
  minute := m.date.dayNumber * 1440 + m.time.hour.val * 60 + m.time.minute.val -
    (m.offset.getD .zero).minutes
  second := m.time.second
  nanosecond := m.time.nanosecond

/-- Whether `utc` is the universal time of `m`. -/
def IsUtcOf (utc m : Moment) : Prop := utc.offset = some .zero ∧ utc.instant = m.instant

theorem minute_toUtc (m : Moment) : m.toUtc.instant.minute = m.instant.minute := by
  have hhour := m.time.hour.isLt
  have hminute := m.time.minute.isLt
  have hshift := (m.offset.getD .zero).lt_day
  have hnext := m.date.dayNumber_next
  have hprevious := m.date.dayNumber_previous
  have hzero : Offset.zero.minutes = 0 := rfl
  simp only [instant, toUtc, Option.getD_some, hzero]
  split
  · rw [hprevious]
    omega
  · split
    · rw [hnext]
      omega
    · omega

theorem isUtcOf_toUtc (m : Moment) : m.toUtc.IsUtcOf m :=
  ⟨rfl, Instant.ext (minute_toUtc m) rfl rfl⟩

theorem eq_of_instant_eq {utc other : Moment} (hutc : utc.offset = some .zero)
    (hother : other.offset = some .zero) (h : utc.instant = other.instant) : utc = other := by
  obtain ⟨date, ⟨hour, minute, second, nanosecond⟩, offset⟩ := utc
  obtain ⟨date', ⟨hour', minute', second', nanosecond'⟩, offset'⟩ := other
  obtain rfl : offset = some .zero := hutc
  obtain rfl : offset' = some .zero := hother
  obtain rfl : second = second' := congrArg Instant.second h
  obtain rfl : nanosecond = nanosecond' := congrArg Instant.nanosecond h
  have hcount := congrArg Instant.minute h
  have hhour := hour.isLt
  have hhour' := hour'.isLt
  have hminute := minute.isLt
  have hminute' := minute'.isLt
  simp only [instant] at hcount
  obtain rfl : date = date' := Date.dayNumber_inj (by omega)
  obtain rfl : hour = hour' := Fin.ext (by omega)
  obtain rfl : minute = minute' := Fin.ext (by omega)
  rfl

theorem isUtcOf_iff {utc m : Moment} : utc.IsUtcOf m ↔ utc = m.toUtc := by
  constructor
  · rintro ⟨hoffset, hinstant⟩
    exact eq_of_instant_eq hoffset rfl (hinstant.trans (isUtcOf_toUtc m).2.symm)
  · rintro rfl
    exact isUtcOf_toUtc m

theorem toUtc_eq_of_instant_eq {m other : Moment} (h : m.instant = other.instant) :
    m.toUtc = other.toUtc :=
  isUtcOf_iff.1 ⟨rfl, (isUtcOf_toUtc m).2.trans h⟩

/-! ## Universal formats -/

theorem format_universalSortable (culture : Culture) (m : Moment) :
    m.format culture "u" =
      .ok (dateText m.toUtc.date ++ ' ' :: (timeText m.toUtc.time ++ ['Z'])) := by
  have hcustom : custom culture m.toUtc "yyyy'-'MM'-'dd HH':'mm':'ss'Z'" = _ :=
    custom_dateTime culture m.toUtc " " [.literal "Z"] (by decide)
  have hformat : m.format culture "u" =
      custom culture m.toUtc "yyyy'-'MM'-'dd HH':'mm':'ss'Z'" := rfl
  rw [hformat, hcustom]
  simp [writeAll, write]

/-- The text of a universal time with the names of days and months, which are English. -/
def universalText (utc : Moment) : Except FormatFault Text :=
  custom .invariant utc "ddd, dd MMM yyyy HH':'mm':'ss 'GMT'"

theorem exists_universalText (utc : Moment) : ∃ s, universalText utc = .ok s := ⟨_, rfl⟩

theorem format_universalNames (culture : Culture) (m : Moment) {letter : Char}
    (hletter : letter = 'R' ∨ letter = 'r') :
    m.format culture [letter] = universalText m.toUtc := by
  rcases hletter with rfl | rfl <;> rfl

/-- A moment has one universal time. The format `u` writes it alike in every culture, and is read as
the universal time in whole seconds; `u` and `R` write moments at the same point in time alike,
whatever their offsets and the cultures. -/
theorem format_universal (m : Moment) :
    (∃! utc : Moment, utc.IsUtcOf m) ∧
    (∀ utc : Moment, utc.IsUtcOf m → HasPlainYear utc.date →
      ∃ s, (∀ culture, m.format culture "u" = .ok s) ∧
        parse? s = some ⟨utc.date, utc.time.truncate 1000000000, some .zero⟩) ∧
    ∀ other : Moment, other.instant = m.instant → ∀ letter ∈ ['u', 'R', 'r'],
      ∃ s, ∀ culture,
        m.format culture [letter] = .ok s ∧ other.format culture [letter] = .ok s := by
  refine ⟨⟨m.toUtc, isUtcOf_toUtc m, fun utc => isUtcOf_iff.1⟩, ?_, ?_⟩
  · intro utc hutc hyear
    obtain rfl := isUtcOf_iff.1 hutc
    refine ⟨_, fun culture => format_universalSortable culture m, ?_⟩
    have hread := timestamp?_eq_some hyear m.toUtc.time (.inr rfl) (s := ['Z'])
      (by decide : 0 < 1000000000) rfl rfl
    rw [TimeOfDay.truncate_second]
    exact parse?_of_timestamp? hread
  · intro other hother letter hletter
    have hutc := toUtc_eq_of_instant_eq hother
    simp only [List.mem_cons, List.not_mem_nil, or_false] at hletter
    rcases hletter with rfl | hletter
    · refine ⟨_, fun culture => ⟨format_universalSortable culture m, ?_⟩⟩
      rw [← hutc]
      exact format_universalSortable culture other
    · obtain ⟨s, hs⟩ := exists_universalText m.toUtc
      refine ⟨s, fun culture => ⟨?_, ?_⟩⟩
      · rw [format_universalNames culture m hletter, hs]
      · rw [format_universalNames culture other hletter, hutc, hs]

/-- Half an hour west, the last day of February is the first of March in universal time. -/
theorem format_universal_leapDay :
    let m : Moment :=
      ⟨⟨2000, 1, 29, by decide, by decide⟩, ⟨23, 45, 0, 750000000⟩, some ⟨-30, by decide⟩⟩
    let other : Moment :=
      ⟨⟨2000, 2, 1, by decide, by decide⟩, ⟨5, 0, 0, 750000000⟩, some ⟨285, by decide⟩⟩
    let march : Date := ⟨2000, 2, 1, by decide, by decide⟩
    parse? "2000-02-29T23:45:00.75-00:30" = some m ∧
      parse? "2000-03-01T05:00:00.75+04:45" = some other ∧ other.instant = m.instant ∧
      (∃ s, (∀ culture, m.format culture "u" = .ok s) ∧
        parse? s = some ⟨march, ⟨0, 15, 0, 0⟩, some .zero⟩) ∧
      ∃ s, ∀ culture, m.format culture "R" = .ok s ∧ other.format culture "R" = .ok s := by
  intro m other march
  have hsame : other.instant = m.instant := by decide
  have hutc : IsUtcOf ⟨march, ⟨0, 15, 0, 750000000⟩, some .zero⟩ m := ⟨rfl, by decide⟩
  obtain ⟨-, hread, hwrite⟩ := format_universal m
  obtain ⟨s, hs, hparse⟩ := hread _ hutc ⟨by decide, by decide⟩
  exact ⟨by decide, by decide, hsame, ⟨s, hs, hparse.trans (by decide)⟩,
    hwrite other hsame 'R' (by decide)⟩

end Moment

end Phrasebook
