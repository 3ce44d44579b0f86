import PermitPolicy.Facts.Document
import PermitPolicy.Proofs.DaySteps

/-! The length of a permit year.  The year that begins after a date has 366 days if a 29 February
falls into it and else 365; it is cut short by a day where it would end on a 29 February that its
last February does not have. -/

namespace PermitPolicy
open Calendar
set_option autoImplicit false

namespace Calendar

theorem isLeapYear_succ {year : Int} (h : isLeapYear year = true) :
    isLeapYear (year + 1) = false := by
  rw [← Bool.not_eq_true, isLeapYear_iff]
  rw [isLeapYear_iff] at h
  omega

theorem monthLength_of_ne_february (year other : Int) {month : Nat} (h : month ≠ 2) :
    monthLength year month = monthLength other month := by
  unfold monthLength
  split <;> grind

theorem monthLength_february (year : Int) :
    monthLength year 2 = if isLeapYear year then 29 else 28 := rfl

theorem february_bounds (year : Int) : 28 ≤ monthLength year 2 ∧ monthLength year 2 ≤ 29 := by
  rw [monthLength_february]
  split <;> omega

theorem february_long_iff (year : Int) : 29 ≤ monthLength year 2 ↔ isLeapYear year = true := by
  rw [monthLength_february]
  split <;> simp [*]

/-- From March on years have their days in the same places, counted from their ends. -/
theorem daysBeforeMonth_add_yearLength (year other : Int) {month : Nat} (h : 3 ≤ month) :
    daysBeforeMonth year month + yearLength other =
      daysBeforeMonth other month + yearLength year := by
  induction h with
  | refl =>
    unfold yearLength
    simp only [daysBeforeMonth, monthLength]
    split <;> split <;> rfl
  | @step month h ih =>
    have hlength := monthLength_of_ne_february year other (Nat.ne_of_gt h)
    simp only [daysBeforeMonth]
    omega

namespace Date

/-- The date is 29 February. -/
def IsLeapDay (d : Date) : Prop := d.month = 2 ∧ d.day = 29

instance (d : Date) : Decidable d.IsLeapDay :=
  inferInstanceAs (Decidable (d.month = 2 ∧ d.day = 29))

/-- The same date one year later, or 28 February after a leap day. -/
structure YearLater (d e : Date) : Prop where
  year : e.year = d.year + 1
  month : e.month = d.month
  day : e.day = if d.IsLeapDay then 28 else d.day

/-- A leap day falls after one date and no later than another. -/
def LeapDayBetween (d e : Date) : Prop :=
  ∃ leapDay : Date, leapDay.IsLeapDay ∧ d.before leapDay = true ∧ e.before leapDay = false

/-- The year of the first February that ends after the date. -/
def nextFebruary (d : Date) : Int := if d.month ≤ 2 then d.year else d.year + 1

variable {d e : Date}

theorem IsLeapDay.isLeapYear (h : d.IsLeapDay) : isLeapYear d.year = true := by
  have hv := d.valid.2.2.2
  rw [h.1, h.2] at hv
  exact (february_long_iff d.year).mp hv

theorem exists_leapDay {year : Int} (hf : firstYear ≤ year) (hl : year ≤ lastYear)
    (h : Calendar.isLeapYear year = true) : ∃ d : Date, d.year = year ∧ d.IsLeapDay := by
  have hday := (february_long_iff year).mpr h
  exact ⟨⟨year, 2, 29, hf, hl, by omega, hday⟩, rfl, rfl, rfl⟩

theorem before_eq_true_iff : d.before e = true ↔ d.year < e.year ∨ d.year = e.year ∧
    (d.month < e.month ∨ d.month = e.month ∧ d.day < e.day) := by
  simp [before]

theorem before_eq_false_iff : d.before e = false ↔ e.year < d.year ∨ d.year = e.year ∧
    (e.month < d.month ∨ d.month = e.month ∧ e.day ≤ d.day) := by
  rw [← Bool.not_eq_true, before_eq_true_iff]
  omega

theorem day_le_of_not_leapDay (h : ¬ d.IsLeapDay) (hm : d.month = 2) : d.day ≤ 28 := by
  have hv := d.valid.2.2.2
  rw [hm] at hv
  have hfebruary := (february_bounds d.year).2
  have hday : d.day ≠ 29 := fun hday => h ⟨hm, hday⟩
  omega

theorem min_day_monthLength (d : Date) :
    min d.day (monthLength (d.year + 1) d.month) = if d.IsLeapDay then 28 else d.day := by
  split
  · rename_i h
    have hfebruary := february_bounds (d.year + 1)
    have hshort : ¬ 29 ≤ monthLength (d.year + 1) 2 := by
      rw [february_long_iff, isLeapYear_succ h.isLeapYear]
      exact Bool.false_ne_true
    rw [h.1, h.2]
    omega
  · rename_i h
    apply Nat.min_eq_left
    by_cases hm : d.month = 2
    · have hday := day_le_of_not_leapDay h hm
      have hfebruary := (february_bounds (d.year + 1)).1
      rw [hm]
      omega
    · rw [monthLength_of_ne_february (d.year + 1) d.year hm]
      exact d.valid.2.2.2

theorem addMonths?_twelve (d : Date) : d.addMonths? 12 =
    of? (d.year + 1) d.month (if d.IsLeapDay then 28 else d.day) := by
  have hm := d.month_range
  have hyear : (d.year * 12 + (d.month - 1 + 12 : Nat)) / 12 = d.year + 1 := by omega
  have hmonth : ((d.year * 12 + (d.month - 1 + 12 : Nat)) % 12).toNat + 1 = d.month := by omega
  unfold addMonths?
  simp only [hyear, hmonth, min_day_monthLength]

theorem addMonths?_twelve_eq_some_iff : d.addMonths? 12 = some e ↔ d.YearLater e := by
  rw [addMonths?_twelve, of?_eq_some_iff]
  exact ⟨fun ⟨hy, hm, hd⟩ => ⟨hy, hm, hd⟩, fun h => ⟨h.year, h.month, h.day⟩⟩

theorem addMonths?_twelve_eq_none_iff : d.addMonths? 12 = none ↔ d.year = lastYear := by
  have hv := d.valid
  have hlength : 1 ≤ min d.day (monthLength (d.year + 1) d.month) := by
    have hm := d.month_range
    have hpos := monthLength_pos (d.year + 1) hm.1 hm.2
    omega
  rw [min_day_monthLength] at hlength
  have hfit : (if d.IsLeapDay then 28 else d.day) ≤ monthLength (d.year + 1) d.month := by
    rw [← min_day_monthLength]
    exact Nat.min_le_right _ _
  rw [addMonths?_twelve, ← Option.not_isSome_iff_eq_none, isSome_of?_iff]
  omega

theorem YearLater.dayNumber_eq (h : d.YearLater e) (hd : ¬ d.IsLeapDay) :
    e.dayNumber = d.dayNumber + yearLength d.nextFebruary := by
  have hyear := daysBeforeYear_succ d.year
  have hday := h.day
  rw [if_neg hd] at hday
  unfold dayNumber ordinal nextFebruary
  rw [h.year, h.month, hday]
  split
  · have hearly : daysBeforeMonth (d.year + 1) d.month = daysBeforeMonth d.year d.month := by
      have hm := d.month_range
      obtain hm | hm : d.month = 1 ∨ d.month = 2 := by omega
      · rw [hm]
        rfl
      · rw [hm]
        rfl
    omega
  · have hmarch : 3 ≤ d.month := by omega
    have hlate := daysBeforeMonth_add_yearLength (d.year + 1) d.year hmarch
    omega

theorem YearLater.leapDayBetween_iff (h : d.YearLater e) (hd : ¬ d.IsLeapDay) :
    d.LeapDayBetween e ↔ Calendar.isLeapYear d.nextFebruary = true := by
  obtain ⟨hyear, hmonth, hday⟩ := h
  rw [if_neg hd] at hday
  have hshort := day_le_of_not_leapDay hd
  have hv := d.valid
  have hlast := e.valid.2.1
  have hm := d.month_range
  constructor
  -- A leap day of any other year comes too early or too late.
  · rintro ⟨l, hl, hafter, hby⟩
    have hleap := hl.isLeapYear
    rw [before_eq_true_iff, hl.1, hl.2] at hafter
    rw [before_eq_false_iff, hl.1, hl.2] at hby
    have hnext : d.nextFebruary = l.year := by
      unfold nextFebruary
      split <;> omega
    rw [hnext]
    exact hleap
  · intro hleap
    have hrange : firstYear ≤ d.nextFebruary ∧ d.nextFebruary ≤ lastYear := by
      unfold nextFebruary
      split <;> omega
    obtain ⟨l, hl, hleapDay⟩ := exists_leapDay hrange.1 hrange.2 hleap
    refine ⟨l, hleapDay, ?_, ?_⟩
    · rw [before_eq_true_iff, hleapDay.1, hleapDay.2, hl]
      unfold nextFebruary
      split <;> omega
    · rw [before_eq_false_iff, hleapDay.1, hleapDay.2, hl]
      unfold nextFebruary
      split <;> omega

/-- From a leap day on, the year ends before its leap day would come round. -/
theorem YearLater.of_leapDay (h : d.YearLater e) (hd : d.IsLeapDay) :
    e.dayNumber = d.dayNumber + 365 ∧ ¬ d.LeapDayBetween e := by
  obtain ⟨hyear, hmonth, hday⟩ := h
  rw [if_pos hd] at hday
  constructor
  · have hsucc := daysBeforeYear_succ d.year
    have hlength : yearLength d.year = 366 := if_pos hd.isLeapYear
    have hfebruary : daysBeforeMonth (d.year + 1) 2 = daysBeforeMonth d.year 2 := rfl
    unfold dayNumber ordinal
    rw [hyear, hmonth, hday, hd.1, hd.2]
    omega
  · rintro ⟨l, hl, hafter, hby⟩
    rw [before_eq_true_iff, hl.1, hl.2, hd.1, hd.2] at hafter
    rw [before_eq_false_iff, hl.1, hl.2, hyear, hmonth, hday, hd.1] at hby
    omega

theorem YearLater.dayNumber_by_leap_days (h : d.YearLater e) :
    d.LeapDayBetween e ∧ e.dayNumber = d.dayNumber + 366 ∨
      ¬ d.LeapDayBetween e ∧ e.dayNumber = d.dayNumber + 365 := by
  by_cases hd : d.IsLeapDay
  · obtain ⟨hdays, hnone⟩ := h.of_leapDay hd
    exact .inr ⟨hnone, hdays⟩
  · have hdays := h.dayNumber_eq hd
    rw [h.leapDayBetween_iff hd]
    unfold yearLength at hdays
    split at hdays
    · exact .inl ⟨‹_›, hdays⟩
    · exact .inr ⟨‹_›, hdays⟩

end Date
end Calendar

theorem daysInPermitYear?_eq_some_iff {start : Date} {days : Int} :
    daysInPermitYear? start = some days ↔
      ∃ later, start.YearLater later ∧ later.dayNumber - start.dayNumber = days := by
  simp only [daysInPermitYear?, Option.map_eq_some_iff, Date.addMonths?_twelve_eq_some_iff]

/-- A permit year has 366 days if a leap day falls after its start and by the same date one year
later, else 365; only in the last year of the range there is none. -/
theorem daysInPermitYear?_by_leap_days (start : Date) :
    (daysInPermitYear? start = none ↔ start.year = lastYear) ∧
      ∀ days, daysInPermitYear? start = some days ↔
        ∃ later, start.YearLater later ∧
          (start.LeapDayBetween later ∧ days = 366 ∨
            ¬ start.LeapDayBetween later ∧ days = 365) := by
  constructor
  · rw [daysInPermitYear?, Option.map_eq_none_iff, Date.addMonths?_twelve_eq_none_iff]
  · intro days
    rw [daysInPermitYear?_eq_some_iff]
    refine exists_congr fun later => and_congr_right fun hlater => ?_
    rcases hlater.dayNumber_by_leap_days with ⟨hleap, hdays⟩ | ⟨hnone, hdays⟩
    · simp only [hleap, true_and, not_true_eq_false, false_and, or_false]
      omega
    · simp only [hnone, false_and, not_false_eq_true, true_and, false_or]
      omega

/-- A leap day, the day after it, and the day before a leap day. -/
example :
    daysInPermitYear? ⟨2024, 2, 29, by decide⟩ = some 365 ∧
      daysInPermitYear? ⟨2023, 3, 1, by decide⟩ = some 366 ∧
      daysInPermitYear? ⟨-1, 2, 28, by decide⟩ = some 365 := by decide

end PermitPolicy
