import PermitPolicy.Application
import PermitPolicy.Calendar.Read
import PermitPolicy.Facts.Basic

/-! The facts of an application.  Its document is laid over an empty application and
flattened: each member is a fact under the keys that lead to it, with dots between them.
The facts derived from dates are put over these. -/

namespace PermitPolicy
open Json Calendar
set_option autoImplicit false

namespace Json.Value

def overlayLeaf (base leaf : Value) : Value :=
  match base with
  | .object slots => .object slots
  | _ => leaf

mutual
/-- Lays a document over a base: members are laid over members of the same key, an object
keeps its place against anything else, and `null` changes nothing. -/
def overlay (base : Value) : Value → Value
  | .null => base
  | .object ms =>
    match base with
    | .object slots => .object (overlayMembers slots ms)
    | _ => .object ms
  | .bool b => overlayLeaf base (.bool b)
  | .number n => overlayLeaf base (.number n)
  | .string s => overlayLeaf base (.string s)
  | .array items => overlayLeaf base (.array items)

def overlayMembers (slots : Entries Value) : List (String × Value) → Entries Value
  | [] => slots
  | (k, v) :: rest =>
    let laid := match Entries.get? k slots with
      | some slot => overlay slot v
      | none => v
    overlayMembers (Entries.insert k laid slots) rest
end

def memberName (parent key : String) : String :=
  if parent.isEmpty then key else parent ++ "." ++ key

mutual
/-- The members at all depths with their dotted names, each after its own members. -/
def flatten (parent : String) : Value → List (String × Value)
  | .object ms => flattenMembers parent ms
  | _ => []

def flattenMembers (parent : String) : List (String × Value) → List (String × Value)
  | [] => []
  | (k, v) :: rest =>
    flatten (memberName parent k) v ++
      (memberName parent k, v) :: flattenMembers parent rest
end

end Json.Value

def daysInPermitYear? (start : Date) : Option Int :=
  (start.addMonths? 12).map fun e => e.dayNumber - start.dayNumber

def expiryDate? (start : Date) (duration : Int) : Option Date :=
  if duration < 1 then none else start.addDays? (duration - 1)

/-- The most days that the calendar can be asked to add at once. -/
def longestStep : Nat := twoPow 31 - 1

/-- `expiryDate?` in words of 64 bits, and nothing where a difference overflows.  The count of days
is the difference read without a sign. -/
def expiryDateInWords? (start : Date) (duration : BitVec 64) : Option (Option Date) :=
  if duration.slt 1 then some none
  else if duration.ssubOverflow 1 then none
  else
    let days := (duration - 1).toNat
    some (if days ≤ longestStep then start.addDays? days else none)

namespace Facts

def validationDate : String := "validationDate"
def daysInPermitYear : String := "daysInPermitYear"
def expiryDate : String := "expiryDate"

def emptyApplication : Value := Application.encode {}

/-- A document laid over the empty application. -/
def completed (document : Value) : Value := emptyApplication.overlay document

def startDate? (format : DateFormat) (merged : Value) : Option Date := do
  let v ← merged.descend? ["permitData", "startDate"]
  format.read? (← v.string?)

def duration? (merged : Value) : Option Int := do
  (← merged.descend? ["permitData", "permitDuration"]).int64?

def ofDocument (document : Value) (today : Date) (format : DateFormat) : Facts :=
  let merged := completed document
  let start := startDate? format merged
  let permitYear := start.bind daysInPermitYear?
  let expiry := do expiryDate? (← start) (← duration? merged)
  (((Table.ofList (merged.flatten "")).insert validationDate (.string (format.write today))).insert
    daysInPermitYear (.ofOption .int permitYear)).insert
    expiryDate (.ofOption (fun d => .string (format.write d)) expiry)

def dateFact? (format : DateFormat) : Option Date → Option Value
  | none => some .null
  | some d => (format.write? d).map .string

/-- `ofDocument`, and nothing where a date among the facts cannot be written. -/
def ofDocument? (document : Value) (today : Date) (format : DateFormat) : Option Facts := do
  let merged := completed document
  let start := startDate? format merged
  let permitYear := start.bind daysInPermitYear?
  let expiry : Option Date := do expiryDate? (← start) (← duration? merged)
  let day ← dateFact? format today
  let last ← dateFact? format expiry
  return (((Table.ofList (merged.flatten "")).insert validationDate day).insert
    daysInPermitYear (.ofOption .int permitYear)).insert expiryDate last

/-- The facts of an application on a day; a missing one has every fact, as `null`. -/
def ofApplication (application : Option Application) (today : Date) (format : DateFormat) :
    Facts :=
  ofDocument (Application.document application) today format

end Facts
end PermitPolicy
