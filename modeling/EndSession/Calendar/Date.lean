/-
This file counts the days of the proleptic Gregorian calendar, from the first of January of the year
one, and finds the date of a day count. The two directions undo each other.
-/

namespace EndSession.Calendar

/-- A leap year divides by four, and by four hundred if it divides by a hundred. -/
def isLeap (year : Nat) : Bool :=
  year % 4 == 0 && (year % 100 != 0 || year % 400 == 0)

/-- The days of each month. -/
def monthLengths (leap : Bool) : List Nat :=
  [31, if leap then 29 else 28, 31, 30, 31, 30, 31, 31, 30, 31, 30, 31]

/-- The days of several months together. -/
def totalDays : List Nat → Nat
  | [] => 0
  | length :: lengths => length + totalDays lengths

@[simp] theorem totalDays_nil : totalDays [] = 0 := rfl

@[simp] theorem totalDays_cons (length : Nat) (lengths : List Nat) :
    totalDays (length :: lengths) = length + totalDays lengths := rfl

/-- The days of the months in front of a month, which counts from one. -/
def daysBeforeMonth (leap : Bool) (month : Nat) : Nat :=
  totalDays ((monthLengths leap).take (month - 1))

/-- The days of the years in front of a year. -/
def daysBeforeYear (year : Nat) : Nat :=
  365 * (year - 1) + (year - 1) / 4 - (year - 1) / 100 + (year - 1) / 400

/-- A date of the calendar. -/
structure Date where
  year : Nat
  month : Nat
  day : Nat
deriving DecidableEq

namespace Date

/-- The year has four digits at most, and the month and the day exist in it. -/
def IsValid (date : Date) : Prop :=
  (1 ≤ date.year ∧ date.year ≤ 9999) ∧ (1 ≤ date.month ∧ date.month ≤ 12) ∧
    1 ≤ date.day ∧ date.day ≤ (monthLengths (isLeap date.year)).getD (date.month - 1) 0

instance (date : Date) : Decidable date.IsValid :=
  inferInstanceAs (Decidable (_ ∧ _ ∧ _ ∧ _))

/-- The days between the first date and this one. -/
def dayCount (date : Date) : Nat :=
  daysBeforeYear date.year + daysBeforeMonth (isLeap date.year) date.month + (date.day - 1)

/-- The year of a day count and the days since it began. Four centuries repeat, and in them three
centuries, in those twenty-four cycles of four years, and in those three years are the short ones. -/
def splitYear (count : Nat) : Nat × Nat :=
  let inCycle := count % 146097
  let century := min (inCycle / 36524) 3
  let inCentury := inCycle - 36524 * century
  let inFour := inCentury % 1461
  let yearOfFour := min (inFour / 365) 3
  (400 * (count / 146097) + 100 * century + 4 * (inCentury / 1461) + yearOfFour + 1,
    inFour - 365 * yearOfFour)

/-- The month of a day of the year and the days since the month began. -/
def splitMonth : List Nat → Nat → Nat × Nat
  | [], day => (1, day)
  | length :: lengths, day =>
    if day < length then (1, day)
    else
      let (month, rest) := splitMonth lengths (day - length)
      (month + 1, rest)

/-- The date of a day count. -/
def ofDayCount (count : Nat) : Date :=
  let (year, dayOfYear) := splitYear count
  let (month, dayOfMonth) := splitMonth (monthLengths (isLeap year)) dayOfYear
  ⟨year, month, dayOfMonth + 1⟩

/-- The days of a year. -/
def yearLength (year : Nat) : Nat :=
  if isLeap year then 366 else 365

/-- The months of a year have its days. -/
theorem totalDays_monthLengths (year : Nat) :
    totalDays (monthLengths (isLeap year)) = yearLength year := by
  unfold yearLength
  cases isLeap year <;> rfl

/-- The days in front of a year, counted in cycles of four hundred, a hundred and four years. -/
theorem daysBeforeYear_cycles (era century four year : Nat) (centuries : century ≤ 3)
    (fours : four ≤ 24) (years : year ≤ 3) :
    daysBeforeYear (400 * era + 100 * century + 4 * four + year + 1) =
      146097 * era + 36524 * century + 1461 * four + 365 * year := by
  have byFour : (400 * era + 100 * century + 4 * four + year) / 4 =
      100 * era + 25 * century + four := by omega
  have byHundred : (400 * era + 100 * century + 4 * four + year) / 100 = 4 * era + century := by
    omega
  have byFourHundred : (400 * era + 100 * century + 4 * four + year) / 400 = era := by omega
  rw [daysBeforeYear, Nat.add_sub_cancel, byFour, byHundred, byFourHundred]
  omega

/-- A cycle of four years ends with a leap year, unless it ends a century that ends no era. -/
theorem isLeap_cycles (era century four year : Nat) (centuries : century ≤ 3) (fours : four ≤ 24)
    (years : year ≤ 3) :
    isLeap (400 * era + 100 * century + 4 * four + year + 1) = true ↔
      year = 3 ∧ (four ≠ 24 ∨ century = 3) := by
  simp only [isLeap, Bool.and_eq_true, Bool.or_eq_true, beq_iff_eq, bne_iff_ne]
  omega

/-- A day count is the days in front of its year and the days since that began. -/
theorem splitYear_spec (count : Nat) :
    1 ≤ (splitYear count).1 ∧
      daysBeforeYear (splitYear count).1 + (splitYear count).2 = count ∧
        (splitYear count).2 < yearLength (splitYear count).1 := by
  obtain ⟨century, isCentury⟩ : ∃ century, century = min (count % 146097 / 36524) 3 := ⟨_, rfl⟩
  obtain ⟨inCentury, isInCentury⟩ : ∃ days, days = count % 146097 - 36524 * century := ⟨_, rfl⟩
  obtain ⟨year, isYear⟩ : ∃ year, year = min (inCentury % 1461 / 365) 3 := ⟨_, rfl⟩
  have split : splitYear count =
      (400 * (count / 146097) + 100 * century + 4 * (inCentury / 1461) + year + 1,
        inCentury % 1461 - 365 * year) := by
    simp only [splitYear, ← isCentury, ← isInCentury, ← isYear]
  have centuries : century ≤ 3 := by omega
  have years : year ≤ 3 := by omega
  have inCycle : 36524 * century + inCentury = count % 146097 := by omega
  have longest : inCentury ≤ 36524 := by omega
  have shorter : century ≠ 3 → inCentury < 36524 := by omega
  have fours : inCentury / 1461 ≤ 24 := by omega
  rw [split]
  refine ⟨Nat.le_add_left 1 _, ?_, ?_⟩
  · rw [daysBeforeYear_cycles _ _ _ _ centuries fours years]
    omega
  · rw [yearLength]
    split
    · omega
    · rename_i common
      rw [isLeap_cycles _ _ _ _ centuries fours years] at common
      omega

/-- The days in front of the next year include this one. -/
theorem daysBeforeYear_succ (year : Nat) :
    daysBeforeYear (year + 2) = daysBeforeYear (year + 1) + yearLength (year + 1) := by
  obtain ⟨era, isEra⟩ : ∃ era, era = year / 400 := ⟨_, rfl⟩
  obtain ⟨century, isCentury⟩ : ∃ century, century = year % 400 / 100 := ⟨_, rfl⟩
  obtain ⟨four, isFour⟩ : ∃ four, four = year % 100 / 4 := ⟨_, rfl⟩
  obtain ⟨rest, isRest⟩ : ∃ rest, rest = year % 4 := ⟨_, rfl⟩
  have whole : year = 400 * era + 100 * century + 4 * four + rest := by omega
  have leap := isLeap_cycles era century four rest (by omega) (by omega) (by omega)
  rw [← whole] at leap
  have byFour : (year + 1) / 4 = year / 4 + if rest = 3 then 1 else 0 := by split <;> omega
  have byHundred : (year + 1) / 100 = year / 100 + if rest = 3 ∧ four = 24 then 1 else 0 := by
    split <;> omega
  have byFourHundred : (year + 1) / 400 =
      year / 400 + if rest = 3 ∧ four = 24 ∧ century = 3 then 1 else 0 := by
    split <;> omega
  have fewer : year / 100 ≤ year / 4 := by omega
  simp only [daysBeforeYear, yearLength, Nat.add_sub_cancel, leap,
    show year + 2 - 1 = year + 1 from rfl, byFour, byHundred, byFourHundred]
  by_cases last : rest = 3 <;> by_cases century' : four = 24 <;> by_cases era' : century = 3 <;>
    simp only [last, century', era', and_true, and_false, or_true, or_false, if_true, if_false,
      ne_eq, not_true, not_false_eq_true] <;>
    omega

/-- The days in front of a later year include an earlier one. -/
theorem daysBeforeYear_add_yearLength_le {early late : Nat} (first : 1 ≤ early)
    (order : early < late) : daysBeforeYear early + yearLength early ≤ daysBeforeYear late := by
  obtain ⟨start, rfl⟩ : ∃ start, early = start + 1 := ⟨early - 1, by omega⟩
  obtain ⟨gap, rfl⟩ : ∃ gap, late = start + 2 + gap := ⟨late - (start + 2), by omega⟩
  rw [← daysBeforeYear_succ]
  clear first order
  induction gap with
  | zero => exact Nat.le_refl _
  | succ gap inductionHypothesis =>
      have next := daysBeforeYear_succ (start + gap + 1)
      have same : start + 2 + gap = start + gap + 1 + 1 := by omega
      have after : start + 2 + (gap + 1) = start + gap + 1 + 2 := by omega
      rw [after, next, ← same]
      exact Nat.le_trans inductionHypothesis (Nat.le_add_right _ _)

/-- A day of a year is found again by its day count. -/
theorem splitYear_daysBeforeYear {year day : Nat} (first : 1 ≤ year) (inYear : day < yearLength year) :
    splitYear (daysBeforeYear year + day) = (year, day) := by
  obtain ⟨found, total, inFound⟩ := splitYear_spec (daysBeforeYear year + day)
  have same : (splitYear (daysBeforeYear year + day)).1 = year := by
    rcases Nat.lt_trichotomy (splitYear (daysBeforeYear year + day)).1 year with less | equal | more
    · have bound := daysBeforeYear_add_yearLength_le found less
      omega
    · exact equal
    · have bound := daysBeforeYear_add_yearLength_le first more
      omega
  apply Prod.ext
  · exact same
  · rw [same] at total
    simpa using total

/-- A day is the days of the months in front of its month and the days since that began. -/
theorem splitMonth_spec (lengths : List Nat) (day : Nat) (inside : day < totalDays lengths) :
    1 ≤ (splitMonth lengths day).1 ∧ (splitMonth lengths day).1 ≤ lengths.length ∧
      totalDays (lengths.take ((splitMonth lengths day).1 - 1)) + (splitMonth lengths day).2 = day ∧
        (splitMonth lengths day).2 < lengths.getD ((splitMonth lengths day).1 - 1) 0 := by
  induction lengths generalizing day with
  | nil => simp at inside
  | cons length lengths inductionHypothesis =>
      rw [splitMonth]
      split
      · rename_i short
        simp [short]
      · rename_i long
        simp only [totalDays_cons] at inside
        obtain ⟨low, high, total, bound⟩ := inductionHypothesis (day - length) (by omega)
        obtain ⟨before, isBefore⟩ : ∃ before, (splitMonth lengths (day - length)).1 = before + 1 :=
          ⟨(splitMonth lengths (day - length)).1 - 1, by omega⟩
        simp only [isBefore, Nat.add_sub_cancel] at total bound high ⊢
        simp only [List.length_cons, List.take_succ_cons, totalDays_cons, List.getD_cons_succ]
        omega

/-- A day of a month is found again by its place in the year. -/
theorem splitMonth_totalDays_take (lengths : List Nat) (before day : Nat)
    (inMonth : day < lengths.getD before 0) :
    splitMonth lengths (totalDays (lengths.take before) + day) = (before + 1, day) := by
  induction lengths generalizing before with
  | nil => simp at inMonth
  | cons length lengths inductionHypothesis =>
      cases before with
      | zero =>
          simp only [List.getD_cons_zero] at inMonth
          simp [splitMonth, inMonth]
      | succ before =>
          simp only [List.getD_cons_succ] at inMonth
          have long : ¬ length + totalDays (lengths.take before) + day < length := by omega
          have rest : length + totalDays (lengths.take before) + day - length =
              totalDays (lengths.take before) + day := by omega
          simp only [List.take_succ_cons, totalDays_cons, splitMonth, long, if_false, rest,
            inductionHypothesis before inMonth]

/-- A day of a month lies in the year. -/
theorem totalDays_take_add_lt (lengths : List Nat) (before day : Nat)
    (inMonth : day < lengths.getD before 0) :
    totalDays (lengths.take before) + day < totalDays lengths := by
  induction lengths generalizing before with
  | nil => simp at inMonth
  | cons length lengths inductionHypothesis =>
      cases before with
      | zero =>
          simp only [List.getD_cons_zero] at inMonth
          simp only [List.take_zero, totalDays_nil, totalDays_cons]
          omega
      | succ before =>
          simp only [List.getD_cons_succ] at inMonth
          have rest := inductionHypothesis before inMonth
          simp only [List.take_succ_cons, totalDays_cons]
          omega

/-- The date of a day count has this day count. -/
theorem dayCount_ofDayCount (count : Nat) : (ofDayCount count).dayCount = count := by
  obtain ⟨_, total, inYear⟩ := splitYear_spec count
  rw [← totalDays_monthLengths] at inYear
  obtain ⟨_, _, sum, _⟩ := splitMonth_spec _ _ inYear
  simp only [ofDayCount, dayCount, daysBeforeMonth, Nat.add_sub_cancel]
  omega

/-- Day counts of four-digit years have dates that exist. -/
theorem isValid_ofDayCount {count : Nat} (inRange : count < 3652059) :
    (ofDayCount count).IsValid := by
  obtain ⟨first, total, inYear⟩ := splitYear_spec count
  have last : (splitYear count).1 ≤ 9999 := by
    apply Nat.le_of_not_lt
    intro later
    have bound := daysBeforeYear_add_yearLength_le (by decide : 1 ≤ 9999) later
    have ends : daysBeforeYear 9999 + yearLength 9999 = 3652059 := by decide +kernel
    omega
  rw [← totalDays_monthLengths] at inYear
  obtain ⟨low, high, _, bound⟩ := splitMonth_spec _ _ inYear
  have place : ofDayCount count = ⟨(splitYear count).1,
      (splitMonth (monthLengths (isLeap (splitYear count).1)) (splitYear count).2).1,
      (splitMonth (monthLengths (isLeap (splitYear count).1)) (splitYear count).2).2 + 1⟩ := by
    simp only [ofDayCount]
  rw [place]
  exact ⟨⟨first, last⟩, ⟨low, high⟩, Nat.succ_pos _, bound⟩

/-- The date that exists is found again by its day count. -/
theorem ofDayCount_dayCount {date : Date} (valid : date.IsValid) :
    ofDayCount date.dayCount = date := by
  obtain ⟨year, month, day⟩ := date
  obtain ⟨⟨first, _⟩, ⟨low, high⟩, dayLow, dayHigh⟩ := valid
  simp only at first low high dayLow dayHigh
  have inMonth : day - 1 < (monthLengths (isLeap year)).getD (month - 1) 0 := by omega
  have found := splitMonth_totalDays_take (monthLengths (isLeap year)) (month - 1) (day - 1) inMonth
  have inYear : daysBeforeMonth (isLeap year) month + (day - 1) < yearLength year := by
    rw [← totalDays_monthLengths]
    exact totalDays_take_add_lt _ _ _ inMonth
  rw [dayCount, Nat.add_assoc, ofDayCount, splitYear_daysBeforeYear first inYear]
  simp only [daysBeforeMonth, found]
  congr 1 <;> omega

end Date

end EndSession.Calendar
