import EndSession.Proofs.Calendar.Succession
import Mathlib.Data.Rat.Floor
import Mathlib.Tactic.Linarith

/-
This file places moments on one line of time, in seconds and their fractions since the start of 1970
in UTC. What a clock shows is rounded down to whole seconds, before 1970 as after it.
-/

namespace EndSession.Calendar.DateTime

/-- The clock shows a date of the years 1 to 9999 and a time of day. -/
structure IsValid (moment : DateTime) : Prop where
  date : moment.date.IsValid
  hour : moment.hour < 24
  minute : moment.minute < 60
  second : moment.second < 60
  microsecond : moment.microsecond < 1000000

/-- The moment lies so many seconds after the start of 1970 in UTC, or before it. A clock that is ahead
of UTC shows the moment too late by its offset. -/
def LiesAt (moment : DateTime) (seconds : ℚ) : Prop :=
  ∃ days : Int, moment.date.IsOnDay days ∧
    seconds = days * 86400 + moment.hour * 3600 + moment.minute * 60 + moment.second +
      moment.microsecond / 1000000 - moment.offset.getD 0

/-- A moment lies behind its whole seconds by its microseconds. -/
theorem liesAt_iff {moment : DateTime} (valid : moment.IsValid) (seconds : ℚ) :
    moment.LiesAt seconds ↔ seconds = moment.epochSeconds + moment.microsecond / 1000000 := by
  simp only [LiesAt, Date.isOnDay_iff valid.date, exists_eq_left, epochSeconds]
  push_cast
  constructor <;> intro same <;> linarith

/-- Every moment lies at one place. -/
theorem existsUnique_liesAt {moment : DateTime} (valid : moment.IsValid) :
    ∃! seconds, moment.LiesAt seconds := by
  simp only [liesAt_iff valid, existsUnique_eq]

/-- The whole seconds of a moment are those of its place, rounded down. -/
theorem LiesAt.floor_eq {moment : DateTime} (valid : moment.IsValid) {seconds : ℚ}
    (lies : moment.LiesAt seconds) : ⌊seconds⌋ = moment.epochSeconds := by
  have micro : (moment.microsecond : ℚ) < 1000000 := by exact_mod_cast valid.microsecond
  have positive : (0 : ℚ) ≤ moment.microsecond := Nat.cast_nonneg _
  rw [(liesAt_iff valid seconds).mp lies, Int.floor_eq_iff]
  constructor <;> linarith

/-- The reading of a clock in UTC at the moment. -/
structure IsInUtc (reading moment : DateTime) : Prop where
  valid : reading.IsValid
  offset : reading.offset = some 0
  together : ∃ seconds, reading.LiesAt seconds ∧ moment.LiesAt seconds

/-- A clock in UTC shows the whole seconds and the microseconds of the moment. -/
theorem isInUtc_iff {reading moment : DateTime} (valid : moment.IsValid) :
    reading.IsInUtc moment ↔ reading.IsValid ∧ reading.offset = some 0 ∧
      reading.epochSeconds = moment.epochSeconds ∧ reading.microsecond = moment.microsecond := by
  constructor
  · rintro ⟨shown, offset, seconds, there, here⟩
    have same : reading.epochSeconds = moment.epochSeconds :=
      (there.floor_eq shown).symm.trans (here.floor_eq valid)
    have micro := (liesAt_iff shown seconds).mp there
    rw [(liesAt_iff valid seconds).mp here, same] at micro
    have micro : (reading.microsecond : ℚ) = moment.microsecond := by linarith
    exact ⟨shown, offset, same, by exact_mod_cast micro⟩
  · rintro ⟨shown, offset, same, micro⟩
    refine ⟨shown, offset, _, (liesAt_iff shown _).mpr rfl, (liesAt_iff valid _).mpr ?_⟩
    rw [same, micro]

/-- A reading in UTC is the only one of its second and microsecond. -/
theorem eq_of_utc {reading other : DateTime} (shown : reading.IsValid) (shown' : other.IsValid)
    (offset : reading.offset = some 0) (offset' : other.offset = some 0)
    (same : reading.epochSeconds = other.epochSeconds)
    (micro : reading.microsecond = other.microsecond) : reading = other := by
  obtain ⟨date, hour, minute, second, microsecond, _⟩ := reading
  obtain ⟨date', hour', minute', second', microsecond', _⟩ := other
  obtain ⟨valid, inDay, inHour, inMinute, _⟩ := shown
  obtain ⟨valid', inDay', inHour', inMinute', _⟩ := shown'
  simp only [epochSeconds] at offset offset' same micro inDay inDay' inHour inHour' inMinute inMinute'
  simp only [offset, offset', Option.getD_some] at same
  have days : date.dayCount = date'.dayCount := by omega
  have dates : date = date' :=
    Date.eq_of_dayCount_eq ((Date.isValid_iff date).mp valid).1 valid' days
  rw [days] at same
  have hours : hour = hour' := by omega
  have minutes : minute = minute' := by omega
  have seconds : second = second' := by omega
  rw [dates, hours, minutes, seconds, micro, offset, offset']

/-- The moment of a count of seconds is shown in UTC. -/
theorem isValid_of_ofEpoch? {seconds : Int} {moment : DateTime}
    (found : ofEpoch? seconds 0 = some moment) :
    moment.IsValid ∧ moment.offset = some 0 ∧ moment.microsecond = 0 := by
  have same := epochSeconds_of_ofEpoch? found
  rw [← same] at found
  have utc := isUtcOf_of_ofEpoch? found
  have micro : moment.microsecond = 0 := by
    unfold ofEpoch? at found
    split at found
    · exact congrArg microsecond (Option.some.inj found).symm
    · cases found
  exact ⟨⟨utc.date, utc.hour, utc.minute, utc.second, by omega⟩, utc.offset, micro⟩

namespace IsInUtc

variable {reading moment : DateTime}

/-- A moment that a clock in UTC shows has its year there. -/
theorem isUtcOf (utc : reading.IsInUtc moment) (valid : moment.IsValid) : reading.IsUtcOf moment := by
  obtain ⟨shown, offset, same, _⟩ := (isInUtc_iff valid).mp utc
  exact ⟨shown.date, shown.hour, shown.minute, shown.second, offset, same⟩

/-- The whole seconds of a moment are found again as its reading in UTC without the microseconds. -/
theorem ofEpoch?_eq (utc : reading.IsInUtc moment) (valid : moment.IsValid) :
    ofEpoch? moment.epochSeconds 0 = some { reading with microsecond := 0 } := by
  obtain ⟨shown, offset, same, _⟩ := (isInUtc_iff valid).mp utc
  obtain ⟨found, isFound⟩ := Option.isSome_iff_exists.mp
    ((isSome_ofEpoch? moment.epochSeconds 0).mpr (utc.isUtcOf valid).inRange)
  obtain ⟨shown', offset', micro⟩ := isValid_of_ofEpoch? isFound
  rw [isFound]
  congr 1
  have whole : ({ reading with microsecond := 0 } : DateTime).IsValid :=
    ⟨shown.date, shown.hour, shown.minute, shown.second, Nat.succ_pos _⟩
  exact eq_of_utc shown' whole offset' offset ((epochSeconds_of_ofEpoch? isFound).trans same.symm)
    micro

end IsInUtc

end EndSession.Calendar.DateTime
