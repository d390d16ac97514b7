import EndSession.Calendar.DateTime

/-
This file reads the moment of a clock with an offset on a clock that shows UTC, and proves that a
moment has a numeric date exactly when its year there is one of the years 1 to 9999.
-/

namespace EndSession.Calendar

namespace Date

/-- The days of four-digit years end where the year 10000 begins. -/
theorem dayCount_lt {date : Date} (valid : date.IsValid) : date.dayCount < 3652059 := by
  obtain ⟨⟨first, last⟩, _, low, high⟩ := valid
  have inMonth : date.day - 1 < (monthLengths (isLeap date.year)).getD (date.month - 1) 0 := by omega
  have inYear := totalDays_take_add_lt _ _ _ inMonth
  rw [totalDays_monthLengths] at inYear
  have ends : daysBeforeYear 10000 = 3652059 := by decide +kernel
  have bound := daysBeforeYear_add_yearLength_le first (show date.year < 10000 by omega)
  rw [dayCount, daysBeforeMonth]
  omega

end Date

namespace DateTime

/-- A clock that shows UTC reads a date of the years 1 to 9999 and a time of day, in the same second as
the moment. -/
structure IsUtcOf (reading moment : DateTime) : Prop where
  date : reading.date.IsValid
  hour : reading.hour < 24
  minute : reading.minute < 60
  second : reading.second < 60
  offset : reading.offset = some 0
  same : reading.epochSeconds = moment.epochSeconds

/-- The year of the moment in UTC is one of the years 1 to 9999. -/
def HasUtcYear (moment : DateTime) : Prop :=
  ∃ reading, IsUtcOf reading moment

/-- The seconds of these years can be read on a clock that shows UTC. -/
theorem isUtcOf_of_ofEpoch? {moment reading : DateTime} {microsecond : Nat}
    (found : ofEpoch? moment.epochSeconds microsecond = some reading) : IsUtcOf reading moment := by
  have same := epochSeconds_of_ofEpoch? found
  have inRange := (isSome_ofEpoch? moment.epochSeconds microsecond).mp (by rw [found]; rfl)
  rw [ofEpoch?, if_pos inRange] at found
  cases found
  simp only [firstSecond, lastSecond] at inRange
  refine ⟨Date.isValid_ofDayCount ?_, ?_, ?_, ?_, rfl, same⟩ <;> simp only [firstSecond] <;> omega

/-- What a clock that shows UTC reads lies in the seconds of these years. -/
theorem IsUtcOf.inRange {reading moment : DateTime} (utc : IsUtcOf reading moment) :
    firstSecond ≤ moment.epochSeconds ∧ moment.epochSeconds ≤ lastSecond := by
  have days := Date.dayCount_lt utc.date
  have hour := utc.hour
  have minute := utc.minute
  have second := utc.second
  rw [← utc.same, epochSeconds, utc.offset]
  simp only [firstSecond, lastSecond, epochDay, Option.getD_some]
  omega

/-- A moment has a numeric date exactly when its year in UTC is one of these, and this is the count of
its seconds. -/
theorem numericDate?_eq_some_iff (moment : DateTime) (seconds : Int) :
    moment.numericDate? = some seconds ↔ moment.HasUtcYear ∧ moment.epochSeconds = seconds := by
  unfold numericDate?
  constructor
  · intro found
    split at found
    · rename_i inRange
      obtain ⟨reading, shown⟩ := Option.isSome_iff_exists.mp
        ((isSome_ofEpoch? moment.epochSeconds 0).mpr inRange)
      exact ⟨⟨reading, isUtcOf_of_ofEpoch? shown⟩, Option.some.inj found⟩
    · cases found
  · rintro ⟨⟨reading, utc⟩, same⟩
    rw [if_pos utc.inRange, same]

end DateTime

end EndSession.Calendar
