import PermitPolicy.Calendar.Item

/-! Writing the items of a format for a date.  Whether an item is written depends on the item
alone: an item of a time of day is not, every other one is. -/

namespace PermitPolicy.Calendar
set_option autoImplicit false

def monthNames : List String :=
  ["January", "February", "March", "April", "May", "June", "July", "August", "September",
    "October", "November", "December"]

def monthName (month : Nat) : List Char := (monthNames.getD (month - 1) "").toList

def Weekday.name : Weekday → List Char
  | .monday => "Monday".toList
  | .tuesday => "Tuesday".toList
  | .wednesday => "Wednesday".toList
  | .thursday => "Thursday".toList
  | .friday => "Friday".toList
  | .saturday => "Saturday".toList
  | .sunday => "Sunday".toList

def abbreviate (name : List Char) : List Char := name.take 3

namespace Padding

/-- Fills a number up to a width.  The sign stands before zeros and after blanks. -/
def fill (padding : Padding) (width : Nat) (sign digits : List Char) : List Char :=
  let missing := width - (sign.length + digits.length)
  match padding with
  | .none => sign ++ digits
  | .zeros => sign ++ List.replicate missing '0' ++ digits
  | .blanks => List.replicate missing ' ' ++ sign ++ digits

def writeYear (padding : Padding) (year : Int) : List Char :=
  let digits := Nat.toDigits 10 year.natAbs
  if 0 ≤ year ∧ year < 10000 then padding.fill 4 [] digits
  else padding.fill 5 [if year < 0 then '-' else '+'] digits

/-- A number below 256 in two places; its tens are one character, also from ten on. -/
def writeTwo (padding : Padding) (n : Nat) : List Char :=
  let ones := Char.ofNat ('0'.toNat + n % 10)
  if n / 10 = 0 then padding.fill 2 [] [ones]
  else [Char.ofNat ('0'.toNat + n / 10), ones]

end Padding

namespace DateNumber

/-- A number of a date as it is written; a century is kept to eight bits. -/
def write (padding : Padding) (d : Date) : DateNumber → List Char
  | .year => padding.writeYear d.year
  | .century => padding.writeTwo (d.year / 100 % 256).toNat
  | .yearOfCentury => padding.writeTwo (d.year % 100).toNat
  | .isoYear => padding.writeYear d.isoYear
  | .isoYearOfCentury => padding.writeTwo (d.isoYear % 100).toNat
  | .quarter => Nat.toDigits 10 d.quarter
  | .month => padding.writeTwo d.month
  | .day => padding.writeTwo d.day
  | .ordinal => padding.fill 3 [] (Nat.toDigits 10 d.ordinal)
  | .weekFromSunday => padding.writeTwo (d.weekFrom .sunday)
  | .weekFromMonday => padding.writeTwo (d.weekFrom .monday)
  | .isoWeek => padding.writeTwo d.isoWeek
  | .weekdayFromSunday => Nat.toDigits 10 d.weekday.fromSunday
  | .weekdayFromMonday => Nat.toDigits 10 (d.weekday.fromMonday + 1)

end DateNumber

def DateName.write (d : Date) : DateName → List Char
  | .shortMonth => abbreviate (monthName d.month)
  | .longMonth => monthName d.month
  | .shortWeekday => abbreviate d.weekday.name
  | .longWeekday => d.weekday.name

namespace DateItem

def write? (d : Date) : DateItem → Option (List Char)
  | .literal text => some text
  | .blank text => some text
  | .number what padding => some (what.write padding d)
  | .name what => some (what.write d)
  | .timeOfDay => none

def writeAll? (d : Date) : List DateItem → Option (List Char)
  | [] => some []
  | item :: rest =>
    match item.write? d, writeAll? d rest with
    | some written, some others => some (written ++ others)
    | _, _ => none

end DateItem
end PermitPolicy.Calendar
