import PermitPolicy.Basic
import PermitPolicy.Calendar.Format

/-! Reading dates in a format.  The items of the format gather what the text says of the
date; the date is then the one that the year, and the month and day, the day of the year or
a week and weekday determine, provided that it has everything else that was said. -/

namespace PermitPolicy.Calendar
set_option autoImplicit false

inductive DateFault where
  | outOfRange | impossible | notEnough | invalid | tooShort | trailing
deriving DecidableEq

def DateFault.message : DateFault → String
  | .outOfRange => "input is out of range"
  | .impossible => "no possible date and time matching input"
  | .notEnough => "input is not enough for unique date and time"
  | .invalid => "input contains invalid characters"
  | .tooShort => "premature end of input"
  | .trailing => "trailing input"

structure DateClues where
  year : Option Int := none
  century : Option Int := none
  yearOfCentury : Option Int := none
  isoYear : Option Int := none
  isoYearOfCentury : Option Int := none
  quarter : Option Int := none
  month : Option Int := none
  day : Option Int := none
  ordinal : Option Int := none
  weekFromSunday : Option Int := none
  weekFromMonday : Option Int := none
  isoWeek : Option Int := none
  weekday : Option Weekday := none
deriving DecidableEq

abbrev ReadStep (α : Type) := Except DateFault α

/-- What is known after one more mention; two mentions have to agree. -/
def agree {α : Type} [DecidableEq α] (known : Option α) (new : α) : ReadStep (Option α) :=
  match known with
  | some old => if old = new then .ok (some new) else .error .impossible
  | none => .ok (some new)

def bounded (low high n : Int) : ReadStep Int :=
  if low ≤ n ∧ n ≤ high then .ok n else .error .outOfRange

/-- Largest year that can be written, whether there are dates in it or not. -/
def largestYear : Int := twoPow 31 - 1

def yearInWord (n : Int) : ReadStep Int := bounded (-largestYear - 1) largestYear n

namespace DateClues

def setWeekday (c : DateClues) (d : Weekday) : Except DateFault DateClues := do
  return { c with weekday := ← agree c.weekday d }

def set (c : DateClues) (n : Int) : DateNumber → Except DateFault DateClues
  | .year => do return { c with year := ← agree c.year (← yearInWord n) }
  | .century => do return { c with century := ← agree c.century (← bounded 0 largestYear n) }
  | .yearOfCentury => do
    return { c with yearOfCentury := ← agree c.yearOfCentury (← bounded 0 99 n) }
  | .isoYear => do
    return { c with isoYear := ← agree c.isoYear (← yearInWord n) }
  | .isoYearOfCentury => do
    return { c with isoYearOfCentury := ← agree c.isoYearOfCentury (← bounded 0 99 n) }
  | .quarter => do return { c with quarter := ← agree c.quarter (← bounded 1 4 n) }
  | .month => do return { c with month := ← agree c.month (← bounded 1 12 n) }
  | .day => do return { c with day := ← agree c.day (← bounded 1 31 n) }
  | .ordinal => do return { c with ordinal := ← agree c.ordinal (← bounded 1 366 n) }
  | .weekFromSunday => do
    return { c with weekFromSunday := ← agree c.weekFromSunday (← bounded 0 53 n) }
  | .weekFromMonday => do
    return { c with weekFromMonday := ← agree c.weekFromMonday (← bounded 0 53 n) }
  | .isoWeek => do return { c with isoWeek := ← agree c.isoWeek (← bounded 1 53 n) }
  | .weekdayFromSunday => do c.setWeekday (.ofMonday ((← bounded 0 6 n) + 6).toNat)
  | .weekdayFromMonday => do c.setWeekday (.ofMonday ((← bounded 1 7 n) - 1).toNat)

end DateClues

def largestNumber : Nat := twoPow 63 - 1

/-- Reads digits, at most so many, after the number `n` read so far. -/
def readDigits (n : Nat) : (width : Nat) → List Char → Except DateFault (Nat × List Char)
  | 0, cs => .ok (n, cs)
  | _, [] => .ok (n, [])
  | width + 1, c :: cs =>
    if c.isDigit then
      let m := n * 10 + (c.toNat - '0'.toNat)
      if m ≤ largestNumber then readDigits m width cs else .error .outOfRange
    else .ok (n, c :: cs)

def readNumber (width : Nat) : List Char → Except DateFault (Nat × List Char)
  | [] => .error .tooShort
  | c :: cs => if c.isDigit then readDigits 0 width (c :: cs) else .error .invalid

namespace DateNumber

def width : DateNumber → Nat
  | .year | .isoYear => 4
  | .ordinal => 3
  | .quarter | .weekdayFromSunday | .weekdayFromMonday => 1
  | _ => 2

/-- Years may have a sign, and then any number of digits. -/
def signed : DateNumber → Bool
  | .year | .isoYear => true
  | _ => false

def read (what : DateNumber) (cs : List Char) : Except DateFault (Int × List Char) := do
  match what.signed, Text.trimLeft cs with
  | true, '-' :: rest =>
    let (n, rest) ← readNumber rest.length rest
    return (-(n : Int), rest)
  | true, '+' :: rest =>
    let (n, rest) ← readNumber rest.length rest
    return (n, rest)
  | _, rest =>
    let (n, rest) ← readNumber what.width rest
    return (n, rest)

end DateNumber

def dropLetters : (start : List Char) → List Char → Option (List Char)
  | [], cs => some cs
  | _, [] => none
  | x :: xs, c :: cs => if x.toLower = c.toLower then dropLetters xs cs else none

/-- Reads the abbreviation of one of the names, and the rest of the name if it is there and
wanted. -/
def readName {α : Type} (long : Bool) (cs : List Char) :
    List (α × List Char) → Except DateFault (α × List Char)
  | [] => .error (if Text.utf8Length cs < 3 then .tooShort else .invalid)
  | (a, name) :: others =>
    match dropLetters (abbreviate name) cs with
    | none => readName long cs others
    | some rest =>
      if long then .ok (a, (dropLetters (name.drop 3) rest).getD rest) else .ok (a, rest)

def namedMonths : List (Int × List Char) :=
  (List.range 12).map fun m => ((m + 1 : Nat), monthName (m + 1))

def namedWeekdays : List (Weekday × List Char) :=
  (List.range 7).map fun n => (Weekday.ofMonday n, (Weekday.ofMonday n).name)

namespace DateName

def read (what : DateName) (c : DateClues) (cs : List Char) :
    Except DateFault (DateClues × List Char) := do
  match what with
  | .shortMonth =>
    let (m, rest) ← readName false cs namedMonths
    return (← c.set m .month, rest)
  | .longMonth =>
    let (m, rest) ← readName true cs namedMonths
    return (← c.set m .month, rest)
  | .shortWeekday =>
    let (d, rest) ← readName false cs namedWeekdays
    return (← c.setWeekday d, rest)
  | .longWeekday =>
    let (d, rest) ← readName true cs namedWeekdays
    return (← c.setWeekday d, rest)

end DateName

def readLiteral (text cs : List Char) : Except DateFault (List Char) :=
  if Text.utf8Length cs < Text.utf8Length text then .error .tooShort
  else if text.isPrefixOf cs then .ok (cs.drop text.length)
  else .error .invalid

namespace DateItem

/-- Reads an item.  One of a time of day is in no date format, and nothing is read for it. -/
def read (item : DateItem) (c : DateClues) (cs : List Char) :
    Except DateFault (DateClues × List Char) := do
  match item with
  | .literal text => return (c, ← readLiteral text cs)
  | .blank _ => return (c, Text.trimLeft cs)
  | .number what _ =>
    let (n, rest) ← what.read cs
    return (← c.set n what, rest)
  | .name what => what.read c cs
  | .timeOfDay => .error .invalid

def readAll : List DateItem → DateClues → List Char → Except DateFault DateClues
  | [], c, [] => .ok c
  | [], _, _ :: _ => .error .trailing
  | item :: items, c, cs => do
    let (c, rest) ← item.read c cs
    readAll items c rest

end DateItem

namespace DateClues

/-- The year of a full year, a century and a year of the century.  A year of the century by
itself is one from 1970 to 2069. -/
def resolveYear (year century ofCentury : Option Int) : Except DateFault (Option Int) :=
  match year, century, ofCentury with
  | y, none, none => .ok y
  | some y, q, r =>
    if y < 0 then .error .impossible
    else if q.getD (y / 100) = y / 100 ∧ r.getD (y % 100) = y % 100 then .ok (some y)
    else .error .impossible
  | none, some q, some r =>
    if q * 100 + r ≤ largestYear then .ok (some (q * 100 + r)) else .error .outOfRange
  | none, none, some r => .ok (some (if r < 70 then r + 2000 else r + 1900))
  | none, some _, none => .error .notEnough

def fits {α : Type} [DecidableEq α] (clue : Option α) (value : α) : Bool :=
  clue.all (· == value)

def fitsCentury (century ofCentury : Option Int) (year : Int) : Bool :=
  if 0 ≤ year then fits century (year / 100) && fits ofCentury (year % 100)
  else century.isNone && ofCentury.isNone

def fitsDay (c : DateClues) (d : Date) : Bool :=
  fits c.year d.year && fitsCentury c.century c.yearOfCentury d.year &&
    fits c.month d.month && fits c.day d.day

def fitsIsoWeek (c : DateClues) (d : Date) : Bool :=
  fits c.isoYear d.isoYear && fitsCentury none c.isoYearOfCentury d.isoYear &&
    fits c.isoWeek d.isoWeek && fits c.weekday d.weekday

def fitsOrdinal (c : DateClues) (d : Date) : Bool :=
  fits c.ordinal d.ordinal && fits c.weekFromSunday (d.weekFrom .sunday) &&
    fits c.weekFromMonday (d.weekFrom .monday)

def fitsQuarter (c : DateClues) (d : Date) : Bool := fits c.quarter d.quarter

def confirm (d : Date) (ok : Bool) : Except DateFault Date :=
  if ok then .ok d else .error .impossible

def orFault (fault : DateFault) : Option Date → Except DateFault Date
  | some d => .ok d
  | none => .error fault

/-- The date of a weekday in a week of the year, weeks beginning on `start` and week one
being the first whole week. -/
def ofWeek (year week : Int) (weekday start : Weekday) : Except DateFault Date := do
  let first ← orFault .outOfRange (Date.of? year 1 1)
  let ordinal : Int :=
    1 + start.since first.weekday + (week - 1) * 7 + weekday.since start
  if ordinal ≤ 0 then .error .impossible
  else orFault .impossible (Date.ofOrdinal? year ordinal.toNat)

/-- The one date that the clues leave. -/
def resolve (c : DateClues) : Except DateFault Date := do
  let year ← resolveYear c.year c.century c.yearOfCentury
  let isoYear ← resolveYear c.isoYear none c.isoYearOfCentury
  match year, c.month, c.day with
  | some y, some m, some n =>
    let d ← orFault .outOfRange (Date.of? y m.toNat n.toNat)
    confirm d (c.fitsIsoWeek d && c.fitsOrdinal d && c.fitsQuarter d)
  | _, _, _ =>
    match year, c.ordinal with
    | some y, some n =>
      let d ← orFault .outOfRange (Date.ofOrdinal? y n.toNat)
      confirm d (c.fitsDay d && c.fitsIsoWeek d && c.fitsOrdinal d && c.fitsQuarter d)
    | _, _ =>
      match year, c.weekFromSunday, c.weekday with
      | some y, some w, some wd =>
        let d ← ofWeek y w wd .sunday
        confirm d (c.fitsDay d && c.fitsIsoWeek d && c.fitsOrdinal d && c.fitsQuarter d)
      | _, _, _ =>
        match year, c.weekFromMonday, c.weekday with
        | some y, some w, some wd =>
          let d ← ofWeek y w wd .monday
          confirm d (c.fitsDay d && c.fitsIsoWeek d && c.fitsOrdinal d && c.fitsQuarter d)
        | _, _, _ =>
          match isoYear, c.isoWeek, c.weekday with
          | some y, some w, some wd =>
            let d ← orFault .outOfRange (Date.ofIsoWeek? y w.toNat wd)
            confirm d (c.fitsDay d && c.fitsOrdinal d && c.fitsQuarter d)
          | _, _, _ => .error .notEnough

end DateClues

def DateFormat.readOrFault (f : DateFormat) (text : String) : Except DateFault Date := do
  (← DateItem.readAll f.items {} (Text.trimChars text.toList)).resolve

def DateFormat.read? (f : DateFormat) (text : String) : Option Date :=
  (f.readOrFault text).toOption

structure DayFault where
  text : String
  cause : DateFault
deriving DecidableEq

def DayFault.message (f : DayFault) : String :=
  s!"failed to parse '{f.text}' as YYYY-MM-DD ({f.cause.message})"

def readDay (text : String) : Except DayFault Date :=
  (DateFormat.standard.readOrFault text).mapError (DayFault.mk text)

end PermitPolicy.Calendar
