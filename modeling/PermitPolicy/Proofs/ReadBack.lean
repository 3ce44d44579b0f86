import PermitPolicy.Proofs.DateReading
import PermitPolicy.Policy

/-! Reading back a date.  Every accepted format writes every date, and the date comes back exactly
if the numbers of the format are set off and tell it; otherwise nothing comes back, or another
date.  The day of validation is a fact in every format, and dates are compared with it where it
comes back. -/

namespace PermitPolicy
open Json Calendar
set_option autoImplicit false

namespace Calendar

/-- The numbers that are told name a day of a year. -/
def NamesDay (said : List DateNumber) : Prop :=
  (.month ∈ said ∧ .day ∈ said) ∨ .ordinal ∈ said ∨
    ((.weekFromSunday ∈ said ∨ .weekFromMonday ∈ said) ∧ .weekdayFromMonday ∈ said)

/-- They name the year of the date; a year of the century by itself is one of 1970 to 2069. -/
def NamesYear (d : Date) (said : List DateNumber) : Prop :=
  .year ∈ said ∨ (.yearOfCentury ∈ said ∧ (.century ∈ said ∨ (1970 ≤ d.year ∧ d.year ≤ 2069)))

/-- They name a day by the week, and the year that its week belongs to. -/
def NamesWeekday (d : Date) (said : List DateNumber) : Prop :=
  .isoWeek ∈ said ∧ .weekdayFromMonday ∈ said ∧
    (.isoYear ∈ said ∨ (.isoYearOfCentury ∈ said ∧ 1970 ≤ d.isoYear ∧ d.isoYear ≤ 2069))

/-- Numbers of a date that are enough to tell it.  A century is told of the years 0 to 9999 and
beside a year, a place in a century of years that are not negative, and a week only matters where
no day of a year is named. -/
structure Tells (d : Date) (said : List DateNumber) : Prop where
  century : .century ∈ said →
    (0 ≤ d.year ∧ d.year ≤ 9999) ∧ (.year ∈ said ∨ .yearOfCentury ∈ said)
  yearOfCentury : .yearOfCentury ∈ said → 0 ≤ d.year
  isoYearOfCentury : .isoYearOfCentury ∈ said → 0 ≤ d.isoYear
  date : (NamesDay said ∧ NamesYear d said) ∨
    (¬ (NamesDay said ∧ (.year ∈ said ∨ .yearOfCentury ∈ said)) ∧ NamesWeekday d said)

section
variable (d : Date) (said : List DateNumber)

theorem isSome_told {α : Type} (what : DateNumber) (a : α) :
    (told said what a).isSome ↔ what ∈ said := by
  unfold told
  split <;> simp [*]

theorem sound_cluesOf : (cluesOf d said).Sound := by
  have htold : ∀ what (a b : Int), b ∈ told said what a → b = a := by
    intro what a b h
    unfold told at h
    split at h
    · exact (Option.some.inj h).symm
    · cases h
  refine ⟨⟨?_, ?_⟩, ⟨nofun, ?_⟩⟩
  · intro q hq
    rw [htold _ _ q hq]
    omega
  · intro r hr
    rw [htold _ _ r hr]
    omega
  · intro r hr
    rw [htold _ _ r hr]
    omega

theorem fits_cluesOf : (cluesOf d said).Fits d ↔
    (.century ∈ said ∨ .yearOfCentury ∈ said → 0 ≤ d.year) ∧
      (.century ∈ said → d.year / 100 % 256 = d.year / 100) ∧
        (.isoYearOfCentury ∈ said → 0 ≤ d.isoYear) := by
  simp only [DateClues.Fits, DateClues.fitsDay_iff, DateClues.fitsIsoWeek_iff,
    DateClues.fitsOrdinal_iff, DateClues.fitsQuarter, DateClues.fitsCentury_eq_true, cluesOf,
    fits_told, isSome_told]
  simp [and_assoc]

theorem determines_cluesOf : (cluesOf d said).Determines d ↔
    (.century ∈ said → .year ∈ said ∨ .yearOfCentury ∈ said) ∧
      ((NamesDay said ∧ NamesYear d said) ∨
        (¬ (NamesDay said ∧ (.year ∈ said ∨ .yearOfCentury ∈ said)) ∧ NamesWeekday d said)) := by
  simp only [DateClues.Determines, DateClues.TellsDay, DateClues.TellsYear, cluesOf, isSome_told,
    NamesDay, NamesYear, NamesWeekday]
  simp

theorem tells_iff : Tells d said ↔ (.century ∈ said → Legible d .century) ∧
    (cluesOf d said).Fits d ∧ (cluesOf d said).Determines d := by
  rw [fits_cluesOf, determines_cluesOf]
  constructor
  · rintro ⟨hc, hr, hi, hd⟩
    refine ⟨fun h _ => ?_, ⟨?_, ?_, hi⟩, fun h => (hc h).2, hd⟩
    · have := (hc h).1
      omega
    · exact fun h => h.elim (fun h => (hc h).1.1) hr
    · intro h
      have := (hc h).1
      omega
  · rintro ⟨hl, ⟨h0, hc, hi⟩, hq, hd⟩
    refine ⟨fun h => ⟨?_, hq h⟩, fun h => h0 (Or.inr h), hi, hd⟩
    have hlegible := hl h rfl
    have hyear := hc h
    have hpos := h0 (Or.inl h)
    omega

end

namespace DateFormat
open DateItem
variable (f : DateFormat) (d : Date)

def clues : List DateNumber := DateItem.clues f.items

theorem accepted : Accepted f.items :=
  ⟨proper_ofText? f.ofText, timeOfDay_not_mem trialDay f.writesTrialDay⟩

theorem write?_eq : f.write? d = some (f.write d) := by
  unfold write write?
  rw [writeAll?_eq d f.accepted.noTime]
  rfl

theorem readOrFault_write :
    f.readOrFault (f.write d) =
      (do (← readAll f.items (cluesOf d []) (ending d f.items)).resolve) := by
  have htext : (f.write d).toList = textAll d f.items := by
    unfold write write?
    rw [writeAll?_eq d f.accepted.noTime]
    exact String.toList_ofList
  unfold readOrFault
  rw [htext, Text.trimChars, ← Text.trimLeft_trimRight]
  rw [← readAll_trimLeft f.accepted]
  rfl

theorem read?_eq_some_iff {text : String} :
    f.read? text = some d ↔ f.readOrFault text = .ok d := by
  unfold read?
  cases f.readOrFault text <;> simp [Except.toOption]

/-- A date comes back from what was written exactly if its numbers are set off and tell it. -/
theorem read?_write_iff (hz : ZerosEnd d f.items) :
    f.read? (f.write d) = some d ↔ SetOff d f.items ∧ Tells d f.clues := by
  rw [read?_eq_some_iff, readOrFault_write, bind_eq_ok, tells_iff]
  by_cases hs : SetOff d f.items ∧ (.century ∈ f.clues → Legible d .century)
  · rw [readAll_ending f.accepted hs.1 hs.2, List.append_nil]
    have hresolve := (cluesOf d f.clues).resolve_eq_ok_iff (sound_cluesOf d f.clues) d
    constructor
    · rintro ⟨c, hc, h⟩
      obtain rfl := Except.ok.inj hc
      exact ⟨hs.1, hs.2, hresolve.mp h⟩
    · rintro ⟨-, -, h⟩
      exact ⟨_, rfl, hresolve.mpr h⟩
  · constructor
    · rintro ⟨c, hc, h⟩
      have hsound := (extends_of_readAll f.items hc).sound (sound_cluesOf d [])
      exact absurd ((c.resolve_eq_ok_iff hsound d).mp h).1
        (not_fits_of_readAll f.accepted hz hs hc)
    · rintro ⟨hset, hl, -⟩
      exact absurd ⟨hset, hl⟩ hs

/-- Day, month and year without zeros. -/
def unpadded : DateFormat where
  text := "%-d.%-m.%Y"
  items := [.number .day .none, .literal ['.'], .number .month .none, .literal ['.'],
    .number .year .zeros]
  ofText := by decide
  notBlank := by decide
  writesTrialDay := by decide

end DateFormat
end Calendar

theorem get?_dateLessThan (f : DateFormat) : (OperatorSet.standard f).get? "dateLessThan" =
    some ⟨"dateLessThan", fun v => (readDate? f v).isSome, dateBefore f⟩ :=
  OperatorSet.get?_standard (by simp [OperatorSet.custom])

namespace Policy
open DateItem

theorem get?_documentFacts (p : Policy) (document : Value) {name : String}
    (h : name ∉ [allowedVehiclesFact, globalWeightDefaultsFact, globalSizeDefaultsFact]) :
    (p.documentFacts document).get? name =
      (Facts.ofDocument document p.today p.dateFormat).get? name := by
  simp only [List.mem_cons, List.not_mem_nil, or_false, not_or] at h
  obtain ⟨ha, hw, hs⟩ := h
  simp only [documentFacts, Table.get?_insert, Ne.symm ha, Ne.symm hw, Ne.symm hs, if_false]

theorem get?_validationDate (p : Policy) (document : Value) :
    (p.documentFacts document).get? Facts.validationDate =
      some (.string (p.dateFormat.write p.today)) := by
  rw [get?_documentFacts p document (by decide)]
  simp [Facts.ofDocument, Facts.validationDate, Facts.daysInPermitYear, Facts.expiryDate]

/-- The day of validation is a fact in every accepted format.  It reads back as that day exactly
if the format sets its numbers off and they tell the day; dates are then compared with that day. -/
theorem validationDate_reads_back (p : Policy) (document : Value) :
    ∃ written, p.dateFormat.write? p.today = some written ∧
      (p.documentFacts document).get? Facts.validationDate = some (.string written) ∧
      (ZerosEnd p.today p.dateFormat.items →
        (p.dateFormat.read? written = some p.today ↔
          SetOff p.today p.dateFormat.items ∧ Tells p.today p.dateFormat.clues)) ∧
      (SetOff p.today p.dateFormat.items ∧ Tells p.today p.dateFormat.clues →
        p.dateFormat.read? written = some p.today ∧
          ∃ op, (OperatorSet.standard p.dateFormat).get? "dateLessThan" = some op ∧
            ∀ v, op.holds v (.string written) =
              (readDate? p.dateFormat v).any fun date => date.before p.today) := by
  refine ⟨_, p.dateFormat.write?_eq p.today, p.get?_validationDate document,
    p.dateFormat.read?_write_iff p.today, ?_⟩
  intro htold
  have hread := (p.dateFormat.read?_write_iff p.today (zerosEnd_of_setOff htold.1)).mpr htold
  refine ⟨hread, _, get?_dateLessThan p.dateFormat, fun v => ?_⟩
  have hvalue : readDate? p.dateFormat (.string (p.dateFormat.write p.today)) = some p.today :=
    hread
  simp only [Operator.holds, dateBefore, hvalue]
  cases readDate? p.dateFormat v <;> rfl

theorem validationDate_reads_back_unpadded :
    let today : Date := ⟨2024, 2, 29, by decide⟩
    let p : Policy := { definition := { version := "1" }, today, dateFormat := .unpadded }
    (SetOff today DateFormat.unpadded.items ∧ Tells today DateFormat.unpadded.clues) ∧
      ZerosEnd today DateFormat.unpadded.items ∧
      (p.documentFacts .null).get? Facts.validationDate = some (.string "29.2.2024") ∧
      DateFormat.unpadded.read? "29.2.2024" = some today ∧
      ∃ op, (OperatorSet.standard .unpadded).get? "dateLessThan" = some op ∧
        op.holds (.string "1.2.2024") (.string "29.2.2024") = true := by
  intro today p
  have htold : SetOff today DateFormat.unpadded.items ∧ Tells today DateFormat.unpadded.clues := by
    refine ⟨by decide, by decide, by decide, by decide, Or.inl ⟨?_, ?_⟩⟩
    · exact Or.inl (by decide)
    · exact Or.inl (by decide)
  have hzeros : ZerosEnd today DateFormat.unpadded.items := zerosEnd_of_setOff htold.1
  obtain ⟨written, hwrite, hfact, hiff, hback⟩ := p.validationDate_reads_back .null
  have hvalue : DateFormat.unpadded.write? today = some "29.2.2024" := by decide
  obtain rfl : "29.2.2024" = written := Option.some.inj (hvalue.symm.trans hwrite)
  obtain ⟨-, op, hop, hholds⟩ := hback htold
  refine ⟨htold, hzeros, hfact, (hiff hzeros).mpr htold, op, hop, (hholds _).trans ?_⟩
  decide

/-- A year alone is accepted as a format and tells no date, a year of the century comes back as one
from 1970 on, and numbers that run together come back as others. -/
theorem accepted_format_loses_dates :
    ¬ (∀ (f : DateFormat) (d : Date), f.read? (f.write d) = some d) ∧
      (∃ f, DateFormat.of? "%Y" = some f ∧ f.read? (f.write ⟨2024, 1, 1, by decide⟩) = none) ∧
      (∃ f, DateFormat.of? "%y-%m-%d" = some f ∧
        f.read? (f.write ⟨2070, 1, 1, by decide⟩) = some ⟨1970, 1, 1, by decide⟩) ∧
      ∃ f, DateFormat.of? "%-d%-m%Y" = some f ∧
        f.read? (f.write ⟨2024, 1, 11, by decide⟩) = some ⟨24, 12, 11, by decide⟩ := by
  have hyear : ∃ f, DateFormat.of? "%Y" = some f ∧
      f.read? (f.write ⟨2024, 1, 1, by decide⟩) = none := ⟨_, rfl, by decide⟩
  refine ⟨?_, hyear, ⟨_, rfl, by decide⟩, _, rfl, by decide⟩
  intro h
  obtain ⟨f, -, hnone⟩ := hyear
  exact absurd ((h f _).symm.trans hnone) nofun

end Policy
end PermitPolicy
