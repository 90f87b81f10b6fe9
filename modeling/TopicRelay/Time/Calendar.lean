/-!
# The calendar

Dates of the Gregorian calendar, carried back before its introduction and with a year
zero, and instants on the time line of days of 86400 seconds.  `Date.toDays` counts the
days since 1 January 1970 and `Date.ofDays` is its inverse.

`Instant.addMonths?` moves an instant by calendar months: same time of day, same day of
the month, or the last day of a month that is too short.  Instants end with the year
262142, and a month beyond that is refused.
-/

namespace TopicRelay

set_option autoImplicit false

/-! ## Dates -/

/-- A day; months and days of the month count from one. -/
structure Date where
  year : Int
  month : Nat
  day : Nat
  deriving DecidableEq, Repr

namespace Date

/-- Every fourth year has a leap day, except for the centuries that 400 does not divide. -/
def isLeap (year : Int) : Bool := (year % 4 == 0 && year % 100 != 0) || year % 400 == 0

/-- The number of days of a month. -/
def daysInMonth (year : Int) (month : Nat) : Nat :=
  if month = 2 then if isLeap year then 29 else 28
  else if month = 4 ∨ month = 6 ∨ month = 9 ∨ month = 11 then 30
  else 31

/-- The number of days from the start of year one to the start of a year. -/
def daysBeforeYear (year : Int) : Int :=
  let past := year - 1
  365 * past + past / 4 - past / 100 + past / 400

/-- The number of days of a year before the given one of its months. -/
def daysBeforeMonth (year : Int) : Nat → Nat
  | 0 => 0
  | 1 => 0
  | month + 2 => daysBeforeMonth year (month + 1) + daysInMonth year (month + 1)

/-- The number of days from the start of year one to 1 January 1970. -/
def epochDay : Int := 719162

/-- The number of days since 1 January 1970. -/
def toDays (date : Date) : Int :=
  daysBeforeYear date.year + daysBeforeMonth date.year date.month + (date.day : Int) - 1 - epochDay

/-- The year in which a day lies, and the number of days before it in that year.  Years come
in cycles of 400, centuries, groups of four and single years, each with its own length. -/
def yearOfDay (day : Int) : Int × Nat :=
  let cycle := day / 146097
  let inCycle := (day % 146097).toNat
  let century := min (inCycle / 36524) 3
  let inCentury := inCycle - century * 36524
  let group := inCentury / 1461
  let inGroup := inCentury % 1461
  let single := min (inGroup / 365) 3
  (400 * cycle + 100 * century + 4 * group + single + 1, inGroup - single * 365)

/-- The month and the day of the month, the number of days since the start of `month`
given. -/
def monthOfDay (year : Int) : Nat → Nat → Nat → Nat × Nat
  | 0, month, rest => (month, rest + 1)
  | fuel + 1, month, rest =>
    if rest < daysInMonth year month then (month, rest + 1)
    else monthOfDay year fuel (month + 1) (rest - daysInMonth year month)

/-- The date that lies the given number of days after 1 January 1970. -/
def ofDays (days : Int) : Date :=
  let (year, rest) := yearOfDay (days + epochDay)
  let (month, day) := monthOfDay year 11 1 rest
  ⟨year, month, day⟩

/-- The date that lies some months later, on the last day of a month that is too short. -/
def addMonths (date : Date) (months : Nat) : Date :=
  let total := date.year * 12 + (date.month : Int) - 1 + months
  let year := total / 12
  let month := (total % 12).toNat + 1
  ⟨year, month, min date.day (daysInMonth year month)⟩

end Date

/-! ## Instants -/

/-- A point in time: whole seconds since the start of 1970, and nanoseconds after them. -/
structure Instant where
  seconds : Int
  nanos : Nat
  deriving DecidableEq, Repr

namespace Instant

/-- The number of seconds of a day. -/
def daySeconds : Int := 86400

/-- The last year that has instants. -/
def lastYear : Int := 262142

/-- The first second that is an instant. -/
def minSeconds : Int := -8334601228800

/-- The last second that is an instant. -/
def maxSeconds : Int := 8210266876799

/-- The last instant. -/
def greatest : Instant := ⟨maxSeconds, 999999999⟩

/-- The day of an instant. -/
def date (instant : Instant) : Date := Date.ofDays (instant.seconds / daySeconds)

/-- The seconds of an instant's day before it. -/
def secondOfDay (instant : Instant) : Nat := (instant.seconds % daySeconds).toNat

/-- Whether an instant is earlier than another one. -/
def isBefore (left right : Instant) : Bool :=
  left.seconds < right.seconds || (left.seconds == right.seconds && left.nanos < right.nanos)

/-- The instant on a date at a time of day. -/
def onDate (date : Date) (secondOfDay nanos : Nat) : Instant :=
  ⟨date.toDays * daySeconds + secondOfDay, nanos⟩

/-- The instant that lies some months later; `none` beyond the last year. -/
def addMonths? (instant : Instant) (months : Nat) : Option Instant :=
  if months = 0 then some instant
  else
    let date := instant.date.addMonths months
    if lastYear < date.year then none
    else some (onDate date instant.secondOfDay instant.nanos)

/-- Whole milliseconds since the start of 1970, rounded down. -/
def milliseconds (instant : Instant) : Int :=
  instant.seconds * 1000 + (instant.nanos / 1000000 : Nat)

/-! ## Text -/

/-- A number with at least `width` digits. -/
def padded (width value : Nat) : String :=
  let digits := Nat.toDigits 10 value
  String.ofList (List.replicate (width - digits.length) '0' ++ digits)

/-- A year has four digits; one outside of 0 to 9999 has a sign too. -/
def yearText (year : Int) : String :=
  if 0 ≤ year ∧ year ≤ 9999 then padded 4 year.toNat
  else (if year < 0 then "-" else "+") ++ padded 4 year.natAbs

/-- The fraction of a second with none, three, six or nine digits. -/
def fractionText (nanos : Nat) : String :=
  if nanos = 0 then ""
  else if nanos % 1000000 = 0 then "." ++ padded 3 (nanos / 1000000)
  else if nanos % 1000 = 0 then "." ++ padded 6 (nanos / 1000)
  else "." ++ padded 9 nanos

/-- Date and time of day in Greenwich. -/
def toText (instant : Instant) : String :=
  let date := instant.date
  let second := instant.secondOfDay
  yearText date.year ++ "-" ++ padded 2 date.month ++ "-" ++ padded 2 date.day ++ "T"
    ++ padded 2 (second / 3600) ++ ":" ++ padded 2 (second / 60 % 60) ++ ":"
    ++ padded 2 (second % 60) ++ fractionText instant.nanos ++ "Z"

end Instant

end TopicRelay
