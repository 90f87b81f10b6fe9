import Mathlib.Tactic.ByContra
import TopicRelay.Access.ServiceKey
import TopicRelay.Proofs.Dates

/-!
# How long a key is valid

A key is valid for some calendar months.  It expires at the time of day of its issue, on the same
day of a later month or on the last day of a shorter one; and if no instant is as late as that, it
expires with the last instant there is.

One month more is a later expiry until the last instant is reached, since a later month has later
days (`Instant.expiry_strict`).  `ServiceCredential.expires_after_months` says what holds of the
expiry of every key.
-/

namespace TopicRelay

set_option autoImplicit false

namespace Instant

/-! ## Instants and their dates -/

/-- An instant on the time line: neither before the first one nor after the last. -/
structure InRange (instant : Instant) : Prop where
  from_first : minSeconds ≤ instant.seconds
  to_last : instant.seconds ≤ maxSeconds
  nanos_lt : instant.nanos < 1000000000

section

variable {instant left right : Instant}

theorem isBefore_iff :
    left.isBefore right = true ↔
      left.seconds < right.seconds ∨ left.seconds = right.seconds ∧ left.nanos < right.nanos := by
  simp [isBefore]

theorem isBefore_self (instant : Instant) : instant.isBefore instant = false := by
  simp [isBefore]

/-- An instant that is in an earlier second is not after the other one. -/
theorem not_isBefore_of_seconds_lt (earlier : left.seconds < right.seconds) :
    right.isBefore left = false := by
  rw [Bool.eq_false_iff, Ne, isBefore_iff]
  omega

/-- Every other instant is before the last. -/
theorem isBefore_greatest (known : instant.InRange) (other : instant ≠ greatest) :
    instant.isBefore greatest = true := by
  obtain ⟨seconds, nanos⟩ := instant
  obtain ⟨_, to_last, nanos_lt⟩ := known
  have apart : ¬(seconds = maxSeconds ∧ nanos = 999999999) := by
    rintro ⟨rfl, rfl⟩
    exact other rfl
  rw [isBefore_iff]
  simp only [greatest, maxSeconds] at *
  omega

/-- No instant is after the last. -/
theorem not_greatest_isBefore (known : instant.InRange) : greatest.isBefore instant = false := by
  obtain ⟨_, to_last, nanos_lt⟩ := known
  rw [Bool.eq_false_iff, Ne, isBefore_iff]
  simp only [greatest]
  omega

theorem exists_date (instant : Instant) : instant.date.Exists := (Date.ofDays_spec _).1

theorem toDays_date (instant : Instant) : instant.date.toDays = instant.seconds / daySeconds :=
  (Date.ofDays_spec _).2

/-- The time of day ends with the day. -/
theorem secondOfDay_lt (instant : Instant) : instant.secondOfDay < 86400 := by
  simp only [secondOfDay, daySeconds]
  omega

/-- An instant is known by its date and its time of day. -/
theorem onDate_date (instant : Instant) :
    onDate instant.date instant.secondOfDay instant.nanos = instant := by
  obtain ⟨seconds, nanos⟩ := instant
  simp only [onDate, toDays_date, secondOfDay, daySeconds, mk.injEq, and_true]
  omega

end

section

variable {date other : Date} {second : Nat}

/-- The date and the time of day of an instant are those that it was made of. -/
theorem date_onDate (there : date.Exists) (within : second < 86400) (nanos : Nat) :
    (onDate date second nanos).date = date ∧ (onDate date second nanos).secondOfDay = second := by
  have day : (date.toDays * daySeconds + second) / daySeconds = date.toDays := by
    simp only [daySeconds]
    omega
  constructor
  · simp only [Instant.date, onDate, day, Date.ofDays_toDays there]
  · simp only [secondOfDay, onDate, daySeconds]
    omega

end

/-! ## The last month -/

/-- The number of the last month that has instants. -/
def lastMonth : Int := lastYear * 12 + 11

/-- The time line ends with the last month. -/
theorem seconds_le_maxSeconds_iff (instant : Instant) :
    instant.seconds ≤ maxSeconds ↔ instant.date.monthNumber ≤ lastMonth := by
  have ends : Date.monthStart (lastMonth + 1) = maxSeconds / daySeconds + Date.epochDay + 1 := by
    decide
  have days := Date.toDays_lt_monthStart_iff instant.exists_date (lastMonth + 1)
  rw [ends, toDays_date] at days
  simp only [maxSeconds, daySeconds] at *
  omega

/-! ## Some months later -/

/-- One instant lies some calendar months after another: at the same time of day, and on the same
day of the month or on the last day of a shorter month. -/
structure MonthsAfter (later : Instant) (months : Nat) (instant : Instant) : Prop where
  month : later.date.monthNumber = instant.date.monthNumber + months
  day : later.date.day = min instant.date.day (Date.daysInMonth later.date.year later.date.month)
  secondOfDay : later.secondOfDay = instant.secondOfDay
  nanos : later.nanos = instant.nanos

/-- The instant that lies some months later, on the time line or beyond it. -/
def shifted (instant : Instant) (months : Nat) : Instant :=
  onDate (instant.date.addMonths months) instant.secondOfDay instant.nanos

/-- When something expires that is valid for some months. -/
def expiry (instant : Instant) (months : Nat) : Instant :=
  (instant.addMonths? months).getD greatest

variable {instant : Instant} {months fewer more : Nat}

theorem shifted_monthsAfter (instant : Instant) (months : Nat) :
    (instant.shifted months).MonthsAfter months instant := by
  obtain ⟨there, month, day⟩ := Date.addMonths_spec instant.exists_date months
  obtain ⟨date, second⟩ := date_onDate there instant.secondOfDay_lt instant.nanos
  exact ⟨by rw [shifted, date, month], by rw [shifted, date, day], second, rfl⟩

/-- After no months it is the same instant. -/
theorem shifted_zero (instant : Instant) : instant.shifted 0 = instant := by
  rw [shifted, Date.addMonths_zero instant.exists_date, onDate_date]

/-- More months later is in a later second. -/
theorem seconds_shifted_lt (instant : Instant) (less : fewer < more) :
    (instant.shifted fewer).seconds < (instant.shifted more).seconds := by
  obtain ⟨there, earlier, _⟩ := Date.addMonths_spec instant.exists_date fewer
  obtain ⟨also, later, _⟩ := Date.addMonths_spec instant.exists_date more
  have days := Date.toDays_lt_of_monthNumber_lt there also (by omega)
  simp only [shifted, onDate, daySeconds]
  omega

theorem le_seconds_shifted (instant : Instant) (months : Nat) :
    instant.seconds ≤ (instant.shifted months).seconds := by
  rcases Nat.eq_zero_or_pos months with rfl | some
  · simp only [shifted_zero, Int.le_refl]
  · have later := seconds_shifted_lt instant some
    rw [shifted_zero] at later
    omega

/-- What expires in a month that has instants is so many months later; all else expires with the
last instant. -/
theorem expiry_eq (known : instant.InRange) (months : Nat) :
    instant.expiry months =
      if instant.date.monthNumber + months ≤ lastMonth then instant.shifted months
      else greatest := by
  rw [expiry, addMonths?]
  rcases Nat.eq_zero_or_pos months with rfl | some
  · have timely := (seconds_le_maxSeconds_iff instant).mp known.to_last
    rw [if_pos rfl, if_pos (by simpa using timely), shifted_zero, Option.getD_some]
  · obtain ⟨there, month, _⟩ := Date.addMonths_spec instant.exists_date months
    have late : lastYear < (instant.date.addMonths months).year ↔
        lastMonth < instant.date.monthNumber + months := by
      have first := there.month_pos
      have last := there.month_le
      rw [← month, lastMonth]
      simp only [Date.monthNumber]
      omega
    rw [if_neg (Nat.pos_iff_ne_zero.mp some)]
    split
    · rename_i timely
      rw [if_neg (mt late.mp (Int.not_lt.mpr timely)), Option.getD_some, shifted]
    · rename_i beyond
      rw [if_pos (late.mpr (Int.not_le.mp beyond)), Option.getD_none]

/-- A shift to a month that has instants stays on the time line. -/
theorem shifted_inRange (known : instant.InRange)
    (timely : instant.date.monthNumber + months ≤ lastMonth) :
    (instant.shifted months).InRange := by
  have after := shifted_monthsAfter instant months
  refine ⟨Int.le_trans known.from_first (le_seconds_shifted instant months), ?_, ?_⟩
  · rw [seconds_le_maxSeconds_iff, after.month]
    exact timely
  · rw [after.nanos]
    exact known.nanos_lt

theorem greatest_inRange : greatest.InRange := ⟨by decide, by decide, by decide⟩

theorem expiry_inRange (known : instant.InRange) (months : Nat) :
    (instant.expiry months).InRange := by
  rw [expiry_eq known]
  split
  · rename_i timely
    exact shifted_inRange known timely
  · exact greatest_inRange

theorem expiry_zero (instant : Instant) : instant.expiry 0 = instant := rfl

/-- **One month more is later**, until the last instant is reached. -/
theorem expiry_strict (known : instant.InRange) (less : fewer < more)
    (below : instant.expiry fewer ≠ greatest) :
    (instant.expiry fewer).isBefore (instant.expiry more) = true := by
  have before_last := isBefore_greatest (expiry_inRange known fewer) below
  rw [expiry_eq known more]
  split
  · rw [expiry_eq known fewer, if_pos (by omega), isBefore_iff]
    exact .inl (seconds_shifted_lt instant less)
  · exact before_last

/-- One month more is never earlier. -/
theorem expiry_mono (known : instant.InRange) (less : fewer ≤ more) :
    (instant.expiry more).isBefore (instant.expiry fewer) = false := by
  rcases Nat.lt_or_eq_of_le less with fewer_lt | rfl
  · have known_fewer := expiry_inRange known fewer
    rw [expiry_eq known more]
    split
    · rw [expiry_eq known fewer, if_pos (by omega)]
      exact not_isBefore_of_seconds_lt (seconds_shifted_lt instant fewer_lt)
    · exact not_greatest_isBefore known_fewer
  · exact isBefore_self _

/-- What lies in a month that has instants expires exactly so many months later. -/
theorem expiry_monthsAfter (known : instant.InRange)
    (timely : instant.date.monthNumber + months ≤ lastMonth) :
    (instant.expiry months).MonthsAfter months instant := by
  rw [expiry_eq known, if_pos timely]
  exact shifted_monthsAfter instant months

theorem expiry_eq_self_iff (known : instant.InRange) :
    instant.expiry months = instant ↔ months = 0 ∨ instant = greatest := by
  constructor
  · intro same
    by_contra other
    obtain ⟨some, below⟩ := not_or.mp other
    have later := expiry_strict known (Nat.pos_iff_ne_zero.mpr some) (expiry_zero instant ▸ below)
    rw [same, expiry_zero, isBefore_self] at later
    cases later
  · rintro (rfl | rfl)
    · exact expiry_zero _
    · by_contra other
      have earlier := isBefore_greatest (expiry_inRange known months) other
      have never := expiry_mono known (Nat.zero_le months)
      rw [expiry_zero, earlier] at never
      cases never

end Instant

/-- **How long a key is valid.**  A key that is issued at an instant on the time line does not
expire before it is issued, and expires at once only if it is to be valid for no months or is
issued at the last instant.  More months never make it expire earlier, and make it expire later
until the last instant is reached.  Below the last instant it expires exactly so many calendar
months later; and it does so whenever the month that is so many months later has instants. -/
theorem ServiceCredential.expires_after_months (principal appPrefix : String) (serial : Nat)
    {now : Instant} (known : now.InRange) :
    let expiry := fun months => (issue principal appPrefix months now serial).expiresAt
    (∀ months, (expiry months).InRange ∧ (expiry months).isBefore now = false ∧
      (expiry months = now ↔ months = 0 ∨ now = .greatest)) ∧
    (∀ fewer more, fewer ≤ more → (expiry more).isBefore (expiry fewer) = false) ∧
    (∀ fewer more, fewer < more → expiry fewer ≠ .greatest →
      (expiry fewer).isBefore (expiry more) = true) ∧
    (∀ months, expiry months ≠ .greatest → (expiry months).MonthsAfter months now) ∧
    (∀ months : Nat, now.date.monthNumber + months ≤ Instant.lastMonth →
      (expiry months).MonthsAfter months now) := by
  intro expiry
  have same : expiry = now.expiry := rfl
  rw [same]
  refine ⟨fun months => ⟨Instant.expiry_inRange known months, ?_, Instant.expiry_eq_self_iff known⟩,
    fun _ _ => Instant.expiry_mono known, fun _ _ => Instant.expiry_strict known,
    fun months below => Instant.expiry_monthsAfter known ?_,
    fun _ => Instant.expiry_monthsAfter known⟩
  · exact Instant.expiry_mono known (Nat.zero_le months)
  · by_contra late
    exact below (by rw [Instant.expiry_eq known, if_neg late])

/-- Noon on 31 January of the fourth year before year zero, a leap year. -/
def Instant.ancientNoon : Instant := .onDate ⟨-4, 1, 31⟩ 43200 5

/-- A key that is issued at the end of January for a month expires on the leap day, and a year later
if it is issued for a year more.  The longest validity ends with the last instant. -/
theorem january_key_expires_on_leap_day :
    Instant.ancientNoon.InRange ∧
      let expiry := fun months =>
        (ServiceCredential.issue "relay" "CDA" months .ancientNoon 0).expiresAt
      expiry 1 = .onDate ⟨-4, 2, 29⟩ 43200 5 ∧ (expiry 1).MonthsAfter 1 .ancientNoon ∧
        (expiry 13).date = ⟨-3, 2, 28⟩ ∧ (expiry 1).isBefore (expiry 13) = true ∧
        expiry 4294967295 = .greatest ∧ (expiry 4294967295).isBefore (expiry 13) = false := by
  have known : Instant.ancientNoon.InRange := ⟨by decide, by decide, by decide⟩
  obtain ⟨_, never_earlier, later, exact_below, _⟩ :=
    ServiceCredential.expires_after_months "relay" "CDA" 0 known
  exact ⟨known, by decide, exact_below 1 (by decide), by decide,
    later 1 13 (by decide) (by decide), by decide, never_earlier 13 4294967295 (by decide)⟩

end TopicRelay
