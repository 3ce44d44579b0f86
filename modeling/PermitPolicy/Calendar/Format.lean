import PermitPolicy.Basic
import PermitPolicy.Calendar.Render

/-! Date formats: format texts in which a date can be written.  A format is tried on one
day. -/

namespace PermitPolicy.Calendar
set_option autoImplicit false

def trialDay : Date := ⟨2000, 1, 1, by decide⟩

structure DateFormat where
  text : String
  items : List DateItem
  ofText : DateItem.ofText? text.toList = some items
  notBlank : Text.isAllBlank text = false
  writesTrialDay : (DateItem.writeAll? trialDay items).isSome

namespace DateFormat

/-- The format of a text, if it is not blank and the trial day is written in it. -/
def of? (text : String) : Option DateFormat :=
  match h : DateItem.ofText? text.toList with
  | none => none
  | some items =>
    if ht : Text.isAllBlank text = false ∧ (DateItem.writeAll? trialDay items).isSome then
      some ⟨text, items, h, ht.1, ht.2⟩
    else none

def standard : DateFormat where
  text := "%Y-%m-%d"
  items := [.number .year .zeros, .literal ['-'], .number .month .zeros, .literal ['-'],
    .number .day .zeros]
  ofText := by decide
  notBlank := by decide
  writesTrialDay := by decide

instance : Inhabited DateFormat := ⟨standard⟩

def write? (f : DateFormat) (d : Date) : Option String :=
  (DateItem.writeAll? d f.items).map String.ofList

/-- The date written in the format, and nothing where it cannot be. -/
def write (f : DateFormat) (d : Date) : String := (f.write? d).getD ""

end DateFormat
end PermitPolicy.Calendar
