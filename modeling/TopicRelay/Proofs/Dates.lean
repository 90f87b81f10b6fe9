import TopicRelay.Time.Calendar

/-!
# Days and their dates

Every day has a date and every date of the calendar has a day: `Date.ofDays` and `Date.toDays` are
inverse to each other (`Date.ofDays_spec`, `Date.ofDays_toDays`), and the days go by as in any
calendar, each with the date after the one before (`Date.ofDays_succ`).

Months are numbered through, twelve to a year.  They lie one after the other without a gap
(`Date.monthStart_succ`), so a month ends before a later one begins, and a date of an earlier
month is an earlier day (`Date.toDays_lt_of_monthNumber_lt`).
-/

namespace TopicRelay

set_option autoImplicit false

namespace Date

/-! ## Years -/

/-- The number of days of a year. -/
def daysInYear (year : Int) : Nat := if isLeap year then 366 else 365

theorem isLeap_iff {year : Int} :
    isLeap year = true ↔ year % 4 = 0 ∧ year % 100 ≠ 0 ∨ year % 400 = 0 := by
  simp [isLeap]

/-- A year begins where the one before it ends. -/
theorem daysBeforeYear_succ (year : Int) :
    daysBeforeYear (year + 1) = daysBeforeYear year + daysInYear year := by
  simp only [daysBeforeYear, daysInYear]
  split
  · rename_i leap
    rw [isLeap_iff] at leap
    omega
  · rename_i common
    rw [isLeap_iff] at common
    omega

/-- A year as a number of cycles of 400 years, of centuries, of groups of four and of years. -/
theorem daysBeforeYear_parts {cycle : Int} {century group single : Nat} (centuries : century ≤ 3)
    (groups : group ≤ 24) (singles : single ≤ 3) :
    daysBeforeYear (400 * cycle + 100 * century + 4 * group + single + 1) =
      146097 * cycle + 36524 * century + 1461 * group + 365 * single := by
  simp only [daysBeforeYear]
  omega

/-- A day lies in the year that is found for it, as far from the start as is said. -/
theorem yearOfDay_spec (day : Int) :
    daysBeforeYear (yearOfDay day).1 + (yearOfDay day).2 = day ∧
      (yearOfDay day).2 < daysInYear (yearOfDay day).1 := by
  simp only [yearOfDay]
  generalize inCycle_eq : (day % 146097).toNat = inCycle
  have cycles : day = 146097 * (day / 146097) + inCycle ∧ inCycle < 146097 := by omega
  generalize day / 146097 = cycle at cycles
  -- Only the last century of a cycle has a day for the century year's leap day.
  generalize century_eq : min (inCycle / 36524) 3 = century
  generalize inCentury_eq : inCycle - century * 36524 = inCentury
  have centuries : inCycle = 36524 * century + inCentury ∧ century ≤ 3 ∧ inCentury ≤ 36524 ∧
      (century < 3 → inCentury < 36524) := by omega
  generalize group_eq : inCentury / 1461 = group
  generalize inGroup_eq : inCentury % 1461 = inGroup
  have groups : inCentury = 1461 * group + inGroup ∧ group ≤ 24 ∧ inGroup ≤ 1460 := by omega
  generalize single_eq : min (inGroup / 365) 3 = single
  have singles : single ≤ 3 ∧ 365 * single ≤ inGroup ∧ inGroup - 365 * single ≤ 365 ∧
      (single < 3 → inGroup - 365 * single < 365) := by omega
  rw [daysBeforeYear_parts centuries.2.1 groups.2.1 singles.1]
  refine ⟨by omega, ?_⟩
  rw [daysInYear]
  split
  · omega
  · rename_i common
    rw [isLeap_iff] at common
    omega

/-! ## Months of a year -/

theorem daysBeforeMonth_succ (year : Int) {month : Nat} (first : 1 ≤ month) :
    daysBeforeMonth year (month + 1) = daysBeforeMonth year month + daysInMonth year month := by
  obtain ⟨before, rfl⟩ := Nat.exists_eq_add_of_le' first
  rfl

/-- Twelve months make a year. -/
theorem daysBeforeMonth_thirteen (year : Int) : daysBeforeMonth year 13 = daysInYear year := by
  simp only [daysBeforeMonth, daysInMonth, daysInYear]
  cases isLeap year <;> rfl

theorem daysInMonth_pos (year : Int) (month : Nat) : 0 < daysInMonth year month := by
  unfold daysInMonth
  repeat' split
  all_goals decide

/-- The month is found in which a day of the year lies, and the day's place in it. -/
theorem monthOfDay_spec (year : Int) (fuel month rest : Nat) (first : 1 ≤ month)
    (left : month + fuel = 12) (within : daysBeforeMonth year month + rest < daysInYear year) :
    let found := monthOfDay year fuel month rest
    1 ≤ found.1 ∧ found.1 ≤ 12 ∧ 1 ≤ found.2 ∧ found.2 ≤ daysInMonth year found.1 ∧
      daysBeforeMonth year found.1 + found.2 = daysBeforeMonth year month + rest + 1 := by
  induction fuel generalizing month rest with
  | zero =>
      obtain rfl : month = 12 := by omega
      have last := daysBeforeMonth_succ year (show 1 ≤ 12 by decide)
      rw [daysBeforeMonth_thirteen] at last
      simp only [monthOfDay]
      omega
  | succ fuel ih =>
      have next := daysBeforeMonth_succ year first
      rw [monthOfDay]
      split
      · dsimp only
        omega
      · have later := ih (month + 1) (rest - daysInMonth year month) (by omega) (by omega)
          (by omega)
        dsimp only at later ⊢
        omega

/-! ## Dates -/

/-- A date of the calendar: there are twelve months, and as many days as the month has. -/
structure Exists (date : Date) : Prop where
  month_pos : 1 ≤ date.month
  month_le : date.month ≤ 12
  day_pos : 1 ≤ date.day
  day_le : date.day ≤ daysInMonth date.year date.month

/-- **Every day has a date**, and is the day of that date. -/
theorem ofDays_spec (days : Int) : (ofDays days).Exists ∧ (ofDays days).toDays = days := by
  obtain ⟨whole, within⟩ := yearOfDay_spec (days + epochDay)
  have found := monthOfDay_spec (yearOfDay (days + epochDay)).1 11 1
    (yearOfDay (days + epochDay)).2 (by decide) (by decide)
    (by simpa [daysBeforeMonth] using within)
  simp only [daysBeforeMonth] at found
  obtain ⟨month_pos, month_le, day_pos, day_le, placed⟩ := found
  refine ⟨⟨month_pos, month_le, day_pos, day_le⟩, ?_⟩
  simp only [toDays, ofDays]
  omega

/-! ## Months numbered through -/

/-- The number of a date's month, where each year counts for twelve. -/
def monthNumber (date : Date) : Int := date.year * 12 + date.month - 1

/-- The number of days from the start of year one to the start of a month. -/
def monthStart (number : Int) : Int :=
  daysBeforeYear (number / 12) + daysBeforeMonth (number / 12) ((number % 12).toNat + 1)

/-- The number of days of a month. -/
def monthLength (number : Int) : Nat := daysInMonth (number / 12) ((number % 12).toNat + 1)

/-- The number of a month tells the year, and which month of the year it is. -/
theorem year_month_of_number (year : Int) {month : Nat} (first : 1 ≤ month) (last : month ≤ 12) :
    (year * 12 + month - 1) / 12 = year ∧ ((year * 12 + month - 1) % 12).toNat + 1 = month := by
  omega

theorem monthStart_eq {year : Int} {month : Nat} (first : 1 ≤ month) (last : month ≤ 12) :
    monthStart (year * 12 + month - 1) = daysBeforeYear year + daysBeforeMonth year month := by
  obtain ⟨years, months⟩ := year_month_of_number year first last
  rw [monthStart, years, months]

theorem monthLength_eq {year : Int} {month : Nat} (first : 1 ≤ month) (last : month ≤ 12) :
    monthLength (year * 12 + month - 1) = daysInMonth year month := by
  obtain ⟨years, months⟩ := year_month_of_number year first last
  rw [monthLength, years, months]

/-- **A month begins where the one before it ends.** -/
theorem monthStart_succ (number : Int) :
    monthStart (number + 1) = monthStart number + monthLength number := by
  obtain ⟨year, month, first, last, rfl⟩ : ∃ (year : Int) (month : Nat), 1 ≤ month ∧ month ≤ 12 ∧
      number = year * 12 + month - 1 :=
    ⟨number / 12, (number % 12).toNat + 1, by omega, by omega, by omega⟩
  rw [monthStart_eq first last, monthLength_eq first last]
  have next := daysBeforeMonth_succ year first
  rcases Nat.lt_or_eq_of_le last with earlier | rfl
  · have after : year * 12 + month - 1 + 1 = year * 12 + (month + 1 : Nat) - 1 := by omega
    rw [after, monthStart_eq (by omega) (by omega), next]
    omega
  · have after : year * 12 + (12 : Nat) - 1 + 1 = (year + 1) * 12 + (1 : Nat) - 1 := by omega
    rw [daysBeforeMonth_thirteen] at next
    rw [after, monthStart_eq (by decide) (by decide), daysBeforeYear_succ, next]
    simp only [daysBeforeMonth]
    omega

/-- A month ends before a later one begins. -/
theorem monthStart_add_length_le {number later : Int} (before : number < later) :
    monthStart number + monthLength number ≤ monthStart later := by
  obtain ⟨gap, rfl⟩ : ∃ gap : Nat, later = number + 1 + gap :=
    ⟨(later - number - 1).toNat, by omega⟩
  induction gap with
  | zero => simp [monthStart_succ]
  | succ gap ih =>
      have step := monthStart_succ (number + 1 + gap)
      have again := ih (by omega)
      rw [show number + 1 + (gap + 1 : Nat) = number + 1 + gap + 1 by omega]
      omega

theorem monthStart_mono {number later : Int} (before : number ≤ later) :
    monthStart number ≤ monthStart later := by
  rcases Int.lt_or_eq_of_le before with earlier | rfl
  · have := monthStart_add_length_le earlier
    omega
  · exact Int.le_refl _

section

variable {date other : Date}

theorem toDays_eq (there : date.Exists) :
    date.toDays = monthStart date.monthNumber + date.day - 1 - epochDay := by
  rw [toDays, monthNumber, monthStart_eq there.month_pos there.month_le]

/-- A date of an earlier month is an earlier day. -/
theorem toDays_lt_of_monthNumber_lt (there : date.Exists) (also : other.Exists)
    (before : date.monthNumber < other.monthNumber) : date.toDays < other.toDays := by
  have apart := monthStart_add_length_le before
  rw [monthNumber, monthLength_eq there.month_pos there.month_le] at apart
  rw [toDays_eq there, toDays_eq also, monthNumber]
  have last := there.day_le
  have first := also.day_pos
  omega

/-- The dates of a month are the days before the next month that are in no earlier month. -/
theorem toDays_lt_monthStart_iff (there : date.Exists) (number : Int) :
    date.toDays + epochDay < monthStart number ↔ date.monthNumber < number := by
  have first := there.day_pos
  have last := there.day_le
  rw [toDays_eq there]
  constructor
  · intro early
    rcases Int.lt_or_le date.monthNumber number with earlier | late
    · exact earlier
    · have := monthStart_mono late
      omega
  · intro early
    have apart := monthStart_add_length_le early
    rw [monthNumber, monthLength_eq there.month_pos there.month_le] at apart
    rw [monthNumber]
    omega

/-- Different dates are different days. -/
theorem toDays_inj (there : date.Exists) (also : other.Exists) :
    date.toDays = other.toDays ↔ date = other := by
  refine ⟨fun same => ?_, congrArg _⟩
  have month : date.monthNumber = other.monthNumber := by
    rcases Int.lt_trichotomy date.monthNumber other.monthNumber with before | equal | after
    · have := toDays_lt_of_monthNumber_lt there also before
      omega
    · exact equal
    · have := toDays_lt_of_monthNumber_lt also there after
      omega
  rw [toDays_eq there, toDays_eq also, month] at same
  obtain ⟨year, number, day⟩ := date
  obtain ⟨otherYear, otherNumber, otherDay⟩ := other
  obtain ⟨first, last, _, _⟩ := there
  obtain ⟨otherFirst, otherLast, _, _⟩ := also
  simp only [monthNumber] at *
  obtain ⟨rfl, rfl, rfl⟩ : year = otherYear ∧ number = otherNumber ∧ day = otherDay := by omega
  rfl

/-- **Every date of the calendar has a day**, and is the date of that day. -/
theorem ofDays_toDays (there : date.Exists) : ofDays date.toDays = date :=
  (toDays_inj (ofDays_spec _).1 there).mp (ofDays_spec _).2

end

/-! ## The next day -/

/-- The date after a date. -/
def tomorrow (date : Date) : Date :=
  if date.day < daysInMonth date.year date.month then { date with day := date.day + 1 }
  else if date.month < 12 then ⟨date.year, date.month + 1, 1⟩
  else ⟨date.year + 1, 1, 1⟩

theorem tomorrow_spec {date : Date} (there : date.Exists) :
    date.tomorrow.Exists ∧ date.tomorrow.toDays = date.toDays + 1 := by
  obtain ⟨year, month, day⟩ := date
  obtain ⟨month_pos, month_le, day_pos, day_le⟩ := there
  dsimp only at month_pos month_le day_pos day_le
  rw [tomorrow]
  dsimp only
  have next := daysBeforeMonth_succ year month_pos
  split
  · refine ⟨⟨month_pos, month_le, by simp, by simpa⟩, ?_⟩
    simp only [toDays]
    omega
  · split
    · refine ⟨⟨by simp, by dsimp only; omega, Nat.le_refl 1, daysInMonth_pos _ _⟩, ?_⟩
      simp only [toDays]
      omega
    · obtain rfl : month = 12 := by omega
      refine ⟨⟨Nat.le_refl 1, by simp, Nat.le_refl 1, daysInMonth_pos _ _⟩, ?_⟩
      have newYear : daysBeforeMonth (year + 1) 1 = 0 := rfl
      rw [daysBeforeMonth_thirteen] at next
      simp only [toDays, daysBeforeYear_succ, newYear]
      omega

/-- **The days go by as in a calendar**, each with the date after the one before. -/
theorem ofDays_succ (days : Int) : ofDays (days + 1) = (ofDays days).tomorrow := by
  obtain ⟨there, back⟩ := ofDays_spec days
  obtain ⟨also, next⟩ := tomorrow_spec there
  rw [← ofDays_toDays also, next, back]

/-- The days are counted from here. -/
example : ofDays 0 = ⟨1970, 1, 1⟩ := by decide

/-! ## Some months later -/

/-- A date some months later is a date of the calendar, in the month that so many months lead to,
and on the same day of the month or the last day of a shorter month. -/
theorem addMonths_spec {date : Date} (there : date.Exists) (months : Nat) :
    (date.addMonths months).Exists ∧
      (date.addMonths months).monthNumber = date.monthNumber + months ∧
      (date.addMonths months).day =
        min date.day (daysInMonth (date.addMonths months).year (date.addMonths months).month) := by
  have first := there.day_pos
  refine ⟨⟨?_, ?_, ?_, ?_⟩, ?_, rfl⟩
  · simp [addMonths]
  · simp only [addMonths]
    omega
  · exact Nat.le_min.mpr ⟨first, daysInMonth_pos _ _⟩
  · exact Nat.min_le_right _ _
  · simp only [addMonths, monthNumber]
    omega

/-- After no months it is the same date. -/
theorem addMonths_zero {date : Date} (there : date.Exists) : date.addMonths 0 = date := by
  obtain ⟨year, month, day⟩ := date
  obtain ⟨first, last, _, day_le⟩ := there
  obtain ⟨years, months⟩ := year_month_of_number year first last
  dsimp only at years months day_le
  simp only [addMonths, Int.natCast_zero, Int.add_zero, years, months, mk.injEq, true_and]
  exact Nat.min_eq_left day_le

end Date

end TopicRelay
