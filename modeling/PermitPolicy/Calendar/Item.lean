import PermitPolicy.Basic
import PermitPolicy.Calendar.Date

/-! Items of a format.  A format text is literal text, blanks and specifiers after a percent
sign; each specifier stands for one or more items. -/

namespace PermitPolicy.Calendar
set_option autoImplicit false

inductive Padding where
  | zeros | blanks | none
deriving DecidableEq

inductive DateNumber where
  | year | century | yearOfCentury
  | isoYear | isoYearOfCentury
  | quarter | month | day | ordinal
  | weekFromSunday | weekFromMonday | isoWeek
  | weekdayFromSunday | weekdayFromMonday
deriving DecidableEq

inductive DateName where
  | shortMonth | longMonth | shortWeekday | longWeekday
deriving DecidableEq

inductive DateItem where
  | literal (text : List Char)
  | blank (text : List Char)
  | number (what : DateNumber) (padding : Padding)
  | name (what : DateName)
  /-- Something of a time of day or an offset, which a date does not have. -/
  | timeOfDay
deriving DecidableEq

namespace DateItem

def numberOf? : Char → Option (DateNumber × Padding)
  | 'Y' => some (.year, .zeros)
  | 'C' => some (.century, .zeros)
  | 'y' => some (.yearOfCentury, .zeros)
  | 'G' => some (.isoYear, .zeros)
  | 'g' => some (.isoYearOfCentury, .zeros)
  | 'q' => some (.quarter, .none)
  | 'm' => some (.month, .zeros)
  | 'd' => some (.day, .zeros)
  | 'e' => some (.day, .blanks)
  | 'j' => some (.ordinal, .zeros)
  | 'U' => some (.weekFromSunday, .zeros)
  | 'W' => some (.weekFromMonday, .zeros)
  | 'V' => some (.isoWeek, .zeros)
  | 'w' => some (.weekdayFromSunday, .none)
  | 'u' => some (.weekdayFromMonday, .none)
  | _ => none

def twoDigits (what : DateNumber) : DateItem := .number what .zeros

def timeSpecifiers : List Char :=
  ['H', 'I', 'k', 'l', 'M', 'S', 'f', 'p', 'P', 'R', 'T', 'X', 'r', 'c', 's', 'z', 'Z', '+']

def othersOf? : Char → Option (List DateItem)
  | 'A' => some [.name .longWeekday]
  | 'a' => some [.name .shortWeekday]
  | 'B' => some [.name .longMonth]
  | 'b' | 'h' => some [.name .shortMonth]
  | 'D' | 'x' =>
    some [twoDigits .month, .literal ['/'], twoDigits .day, .literal ['/'],
      twoDigits .yearOfCentury]
  | 'F' =>
    some [.number .year .zeros, .literal ['-'], twoDigits .month, .literal ['-'],
      twoDigits .day]
  | 'v' =>
    some [.number .day .blanks, .literal ['-'], .name .shortMonth, .literal ['-'],
      .number .year .zeros]
  | 'n' => some [.blank ['\n']]
  | 't' => some [.blank ['\t']]
  | '%' => some [.literal ['%']]
  | c => if timeSpecifiers.contains c then some [.timeOfDay] else none

def paddingOf? : Char → Option Padding
  | '-' => some .none
  | '0' => some .zeros
  | '_' => some .blanks
  | _ => none

/-- The items of a specifier; only a single number of a date takes a padding flag. -/
def ofSpecifier? (c : Char) : Option (List DateItem) :=
  match numberOf? c with
  | some (what, padding) => some [.number what padding]
  | none => othersOf? c

/-- Puts a character in front of a literal that follows, or makes a new one. -/
def addLiteral (c : Char) : List DateItem → List DateItem
  | .literal text :: rest => .literal (c :: text) :: rest
  | items => .literal [c] :: items

def addBlank (c : Char) : List DateItem → List DateItem
  | .blank text :: rest => .blank (c :: text) :: rest
  | items => .blank [c] :: items

/-- The items of a format text, if every specifier in it is one. -/
def ofText? : List Char → Option (List DateItem)
  | [] => some []
  | ['%'] => none
  | ['%', c] => ofSpecifier? c
  | '%' :: c :: d :: rest =>
    match paddingOf? c with
    | none => do return (← ofSpecifier? c) ++ (← ofText? (d :: rest))
    | some padding => do
      let (what, _) ← numberOf? d
      return .number what padding :: (← ofText? rest)
  | c :: rest => do
    let items ← ofText? rest
    return if Text.isBlank c then addBlank c items else addLiteral c items

end DateItem

end PermitPolicy.Calendar
