import EndSession.Proofs.Calendar.Utc
import Mathlib.Logic.Function.Iterate

/-
This file counts days one at a time, from each date to the next one of the calendar, and proves that
as many days lie between two dates as their day counts differ.
-/

namespace EndSession.Calendar

/-- The days of one more month. -/
theorem totalDays_take_succ (lengths : List Nat) (months : Nat) :
    totalDays (lengths.take (months + 1)) =
      totalDays (lengths.take months) + lengths.getD months 0 := by
  induction lengths generalizing months with
  | nil => simp
  | cons length lengths inductionHypothesis =>
      cases months with
      | zero => simp
      | succ months =>
          simp only [List.take_succ_cons, totalDays_cons, inductionHypothesis,
            List.getD_cons_succ]
          omega

namespace Date

/-- The days of the month that the date is in. -/
def monthLength (date : Date) : Nat :=
  (monthLengths (isLeap date.year)).getD (date.month - 1) 0

/-- The date after a date. A month begins when no day is left of the last one, and a year when no
month is left. -/
def next (date : Date) : Date :=
  if date.day < date.monthLength then { date with day := date.day + 1 }
  else if date.month < 12 then ⟨date.year, date.month + 1, 1⟩
  else ⟨date.year + 1, 1, 1⟩

/-- The date is one of the calendar, which has no last year. -/
structure Occurs (date : Date) : Prop where
  year : 1 ≤ date.year
  firstMonth : 1 ≤ date.month
  lastMonth : date.month ≤ 12
  firstDay : 1 ≤ date.day
  lastDay : date.day ≤ date.monthLength

theorem isValid_iff (date : Date) : date.IsValid ↔ date.Occurs ∧ date.year ≤ 9999 := by
  constructor
  · rintro ⟨⟨year, last⟩, ⟨firstMonth, lastMonth⟩, firstDay, lastDay⟩
    exact ⟨⟨year, firstMonth, lastMonth, firstDay, lastDay⟩, last⟩
  · rintro ⟨⟨year, firstMonth, lastMonth, firstDay, lastDay⟩, last⟩
    exact ⟨⟨year, last⟩, ⟨firstMonth, lastMonth⟩, firstDay, lastDay⟩

/-- Every month has a day. -/
theorem monthLength_pos {date : Date} (firstMonth : 1 ≤ date.month) (lastMonth : date.month ≤ 12) :
    1 ≤ date.monthLength := by
  have each : ∀ leap : Bool, ∀ month < 12, 1 ≤ (monthLengths leap).getD month 0 := by decide
  exact each (isLeap date.year) (date.month - 1) (by omega)

/-- The date after a date is one of the calendar. -/
theorem Occurs.next {date : Date} (occurs : date.Occurs) : date.next.Occurs := by
  obtain ⟨year, firstMonth, lastMonth, firstDay, lastDay⟩ := occurs
  unfold Date.next
  split
  · rename_i inMonth
    exact ⟨year, firstMonth, lastMonth, Nat.le_add_left 1 _, inMonth⟩
  · split
    · rename_i inYear
      exact ⟨year, Nat.le_add_left 1 _, inYear, Nat.le_refl 1,
        monthLength_pos (Nat.le_add_left 1 _) inYear⟩
    · have january : 1 ≤ 12 := by decide
      exact ⟨Nat.le_add_left 1 _, Nat.le_refl 1, january, Nat.le_refl 1,
        monthLength_pos (Nat.le_refl 1) january⟩

/-- The date after a date counts one day more. -/
theorem dayCount_next {date : Date} (occurs : date.Occurs) :
    date.next.dayCount = date.dayCount + 1 := by
  obtain ⟨year, firstMonth, lastMonth, firstDay, lastDay⟩ := occurs
  unfold Date.next
  split
  · simp only [dayCount]
    omega
  · rename_i last
    -- On its last day a month is over, so that its length stands for the day.
    obtain ⟨before, isBefore⟩ : ∃ before, date.month = before + 1 := ⟨date.month - 1, by omega⟩
    have month := totalDays_take_succ (monthLengths (isLeap date.year)) before
    have length : (monthLengths (isLeap date.year)).getD before 0 = date.day := by
      simp only [monthLength, isBefore, Nat.add_sub_cancel] at last lastDay
      omega
    split
    · simp only [dayCount, daysBeforeMonth, isBefore, Nat.add_sub_cancel, month]
      omega
    · have december : before = 11 := by omega
      obtain ⟨earlier, isEarlier⟩ : ∃ earlier, date.year = earlier + 1 := ⟨date.year - 1, by omega⟩
      have whole : totalDays ((monthLengths (isLeap date.year)).take 12) =
          yearLength date.year := totalDays_monthLengths date.year
      have next := daysBeforeYear_succ earlier
      rw [december] at month length
      rw [month, length] at whole
      rw [← isEarlier] at next
      have following : date.year + 1 = earlier + 2 := by omega
      simp only [dayCount, daysBeforeMonth, isBefore, december, following, next,
        Nat.add_sub_cancel, Nat.sub_self, List.take_zero, totalDays_nil]
      omega

/-- Several days later the date is one of the calendar. -/
theorem Occurs.iterate_next {date : Date} (occurs : date.Occurs) (days : Nat) :
    (Date.next^[days] date).Occurs := by
  induction days with
  | zero => exact occurs
  | succ days inductionHypothesis =>
      rw [Function.iterate_succ_apply']
      exact inductionHypothesis.next

/-- Several days later the date counts that many days more. -/
theorem dayCount_iterate_next {date : Date} (occurs : date.Occurs) (days : Nat) :
    (Date.next^[days] date).dayCount = date.dayCount + days := by
  induction days with
  | zero => rfl
  | succ days inductionHypothesis =>
      rw [Function.iterate_succ_apply', dayCount_next (occurs.iterate_next days),
        inductionHypothesis, Nat.add_assoc]

/-- Two dates with one day count are the same. -/
theorem eq_of_dayCount_eq {date other : Date} (occurs : date.Occurs) (valid : other.IsValid)
    (same : date.dayCount = other.dayCount) : date = other := by
  have bound := dayCount_lt valid
  have ends : daysBeforeYear 10000 = 3652059 := by decide +kernel
  -- A count of days determines its date only up to the year 9999, which is known of `other` alone.
  have last : date.year ≤ 9999 := by
    apply Nat.le_of_not_lt
    intro later
    have years : daysBeforeYear 10000 ≤ daysBeforeYear date.year := by
      rcases Nat.eq_or_lt_of_le later with same | more
      · exact Nat.le_of_eq (congrArg daysBeforeYear same)
      · exact Nat.le_trans (Nat.le_add_right _ _)
          (daysBeforeYear_add_yearLength_le (by decide) more)
    rw [← same, dayCount] at bound
    omega
  rw [← ofDayCount_dayCount ((isValid_iff date).mpr ⟨occurs, last⟩), same, ofDayCount_dayCount valid]

/-- The first of January 1970. -/
def epoch : Date := ⟨1970, 1, 1⟩

theorem occurs_epoch : epoch.Occurs :=
  ⟨by decide, by decide, by decide, by decide, by decide⟩

theorem dayCount_epoch : epoch.dayCount = epochDay := by decide +kernel

/-- The date is reached in so many days from the first of January 1970, or this one from the date. -/
inductive IsOnDay : Date → Int → Prop where
  | later (days : Nat) : IsOnDay (Date.next^[days] epoch) days
  | earlier {date : Date} (days : Nat) (reached : Date.next^[days] date = epoch) :
      IsOnDay date (-days)

/-- The day of a date is told by its day count. -/
theorem isOnDay_iff {date : Date} (valid : date.IsValid) (days : Int) :
    date.IsOnDay days ↔ days = date.dayCount - epochDay := by
  have occurs := ((isValid_iff date).mp valid).1
  constructor
  · intro onDay
    cases onDay with
    | later days =>
        rw [dayCount_iterate_next occurs_epoch, dayCount_epoch]
        omega
    | earlier days reached =>
        have counted := dayCount_iterate_next occurs days
        rw [reached, dayCount_epoch] at counted
        omega
  · intro counted
    rcases Nat.le_total epochDay date.dayCount with later | earlier
    · obtain ⟨since, isSince⟩ : ∃ since, date.dayCount = epochDay + since :=
        ⟨date.dayCount - epochDay, by omega⟩
      have reached : Date.next^[since] epoch = date := by
        apply eq_of_dayCount_eq (occurs_epoch.iterate_next since) valid
        rw [dayCount_iterate_next occurs_epoch, dayCount_epoch, isSince]
      have day : days = since := by omega
      rw [day, ← reached]
      exact .later since
    · obtain ⟨left, isLeft⟩ : ∃ left, epochDay = date.dayCount + left :=
        ⟨epochDay - date.dayCount, by omega⟩
      have reached : Date.next^[left] date = epoch := by
        apply eq_of_dayCount_eq (occurs.iterate_next left) (by decide)
        rw [dayCount_iterate_next occurs, dayCount_epoch, isLeft]
      have day : days = -left := by omega
      rw [day]
      exact .earlier left reached

end Date

end EndSession.Calendar
