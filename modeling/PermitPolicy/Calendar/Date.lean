/-! Calendar dates of the proleptic Gregorian calendar, in a bounded range of years.  Day
arithmetic goes through the number of days since 1 January of the year 1. -/

namespace PermitPolicy.Calendar
set_option autoImplicit false

def isLeapYear (year : Int) : Bool :=
  year % 4 = 0 && (year % 100 ≠ 0 || year % 400 = 0)

def yearLength (year : Int) : Nat := if isLeapYear year then 366 else 365

/-- Days of a month; a month outside the year has none. -/
def monthLength (year : Int) : (month : Nat) → Nat
  | 1 | 3 | 5 | 7 | 8 | 10 | 12 => 31
  | 4 | 6 | 9 | 11 => 30
  | 2 => if isLeapYear year then 29 else 28
  | _ => 0

def firstYear : Int := -262143

def lastYear : Int := 262142

structure Date where
  year : Int
  month : Nat
  day : Nat
  valid : firstYear ≤ year ∧ year ≤ lastYear ∧ 1 ≤ day ∧ day ≤ monthLength year month
deriving DecidableEq

instance : Inhabited Date := ⟨⟨1, 1, 1, by decide⟩⟩

inductive Weekday where
  | monday | tuesday | wednesday | thursday | friday | saturday | sunday
deriving DecidableEq, Inhabited

namespace Weekday

def fromMonday : Weekday → Nat
  | .monday => 0
  | .tuesday => 1
  | .wednesday => 2
  | .thursday => 3
  | .friday => 4
  | .saturday => 5
  | .sunday => 6

def fromSunday (d : Weekday) : Nat := (d.fromMonday + 1) % 7

def ofMonday (n : Nat) : Weekday :=
  match n % 7 with
  | 0 => .monday
  | 1 => .tuesday
  | 2 => .wednesday
  | 3 => .thursday
  | 4 => .friday
  | 5 => .saturday
  | _ => .sunday

/-- Days from the last `start` up to the day. -/
def since (d start : Weekday) : Nat := (d.fromMonday + 7 - start.fromMonday) % 7

@[simp] theorem ofMonday_fromMonday (d : Weekday) : ofMonday d.fromMonday = d := by
  cases d <;> rfl

end Weekday

def daysBeforeYear (year : Int) : Int :=
  365 * (year - 1) + (year - 1) / 4 - (year - 1) / 100 + (year - 1) / 400

def daysBeforeMonth (year : Int) : (month : Nat) → Nat
  | 0 => 0
  | month + 1 => daysBeforeMonth year month + monthLength year month

/-- The year of a day number: an estimate by the mean length of a year is off by at most
one. -/
def yearOfDayNumber (n : Int) : Int :=
  let guess := n * 400 / 146097 + 1
  if n < daysBeforeYear guess then guess - 1
  else if daysBeforeYear (guess + 1) ≤ n then guess + 1
  else guess

/-- The month and day of a day of the year, counted from one, among months from `month` on. -/
def monthDay (year : Int) : (tries month ordinal : Nat) → Nat × Nat
  | 0, month, ordinal => (month, ordinal)
  | tries + 1, month, ordinal =>
    if ordinal ≤ monthLength year month then (month, ordinal)
    else monthDay year tries (month + 1) (ordinal - monthLength year month)

namespace Date

def of? (year : Int) (month day : Nat) : Option Date :=
  if h : firstYear ≤ year ∧ year ≤ lastYear ∧ 1 ≤ day ∧ day ≤ monthLength year month then
    some ⟨year, month, day, h⟩
  else none

def ordinal (d : Date) : Nat := daysBeforeMonth d.year d.month + d.day

/-- Days since 1 January of the year 1. -/
def dayNumber (d : Date) : Int := daysBeforeYear d.year + d.ordinal - 1

def ofOrdinal? (year : Int) (ordinal : Nat) : Option Date :=
  if 1 ≤ ordinal ∧ ordinal ≤ yearLength year then
    let (month, day) := monthDay year 11 1 ordinal
    of? year month day
  else none

def ofDayNumber? (n : Int) : Option Date :=
  let year := yearOfDayNumber n
  ofOrdinal? year (n - daysBeforeYear year + 1).toNat

def addDays? (d : Date) (days : Int) : Option Date := ofDayNumber? (d.dayNumber + days)

/-- The same day so many months later, or the last day of that month if it is shorter. -/
def addMonths? (d : Date) (months : Nat) : Option Date :=
  let total := d.year * 12 + (d.month - 1 + months : Nat)
  let year := total / 12
  let month := (total % 12).toNat + 1
  of? year month (min d.day (monthLength year month))

def weekday (d : Date) : Weekday := .ofMonday (d.dayNumber % 7).toNat

def before (d e : Date) : Bool :=
  d.year < e.year || (d.year == e.year &&
    (d.month < e.month || (d.month == e.month && d.day < e.day)))

def quarter (d : Date) : Nat := (d.month + 2) / 3

/-- Weeks of the year that began on `start`, up to the date. -/
def weekFrom (start : Weekday) (d : Date) : Nat :=
  (d.ordinal + 6 - d.weekday.since start) / 7

/-- Day number of the Monday of week one of a year, the week that holds 4 January. -/
def isoYearStart (year : Int) : Int :=
  let fourth := daysBeforeYear year + 3
  fourth - fourth % 7

def isoYear (d : Date) : Int :=
  if d.dayNumber < isoYearStart d.year then d.year - 1
  else if isoYearStart (d.year + 1) ≤ d.dayNumber then d.year + 1
  else d.year

/-- The week of its year, weeks beginning on Monday. -/
def isoWeek (d : Date) : Nat := ((d.dayNumber - isoYearStart d.isoYear) / 7).toNat + 1

def isoWeeksOfYear (year : Int) : Nat :=
  ((isoYearStart (year + 1) - isoYearStart year) / 7).toNat

def ofIsoWeek? (year : Int) (week : Nat) (weekday : Weekday) : Option Date :=
  if 1 ≤ week ∧ week ≤ isoWeeksOfYear year then
    ofDayNumber? (isoYearStart year + 7 * (week - 1 : Nat) + weekday.fromMonday)
  else none

theorem of?_eq_some {year : Int} {month day : Nat} {d : Date}
    (h : of? year month day = some d) : d.year = year ∧ d.month = month ∧ d.day = day := by
  unfold of? at h
  split at h
  · obtain rfl := Option.some.inj h
    exact ⟨rfl, rfl, rfl⟩
  · cases h

@[simp] theorem of?_self (d : Date) : of? d.year d.month d.day = some d := by
  obtain ⟨y, m, n, h⟩ := d
  simp [of?, h]

end Date
end PermitPolicy.Calendar
