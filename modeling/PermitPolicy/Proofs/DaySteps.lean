import PermitPolicy.Proofs.DayNumbers

/-! Steps from day to day.  The day after a date is read off the calendar, month by month, and has
the next day number; so a difference of day numbers is a count of such steps, and adding days to a
date is taking so many of them. -/

namespace PermitPolicy.Calendar
set_option autoImplicit false

theorem monthLength_pos (year : Int) {month : Nat} (hf : 1 ≤ month) (hl : month ≤ 12) :
    1 ≤ monthLength year month := by
  unfold monthLength
  split <;> grind

theorem daysBeforeYear_mono {y z : Int} (h : y ≤ z) : daysBeforeYear y ≤ daysBeforeYear z := by
  unfold daysBeforeYear
  omega

namespace Date

def first : Date := ⟨firstYear, 1, 1, by decide⟩

def last : Date := ⟨lastYear, 12, 31, by decide⟩

/-- The day after a date: the next one of its month, or else the first of the next month, or else
the first of the next year, if that is in the range. -/
def next? (d : Date) : Option Date :=
  if d.day < monthLength d.year d.month then of? d.year d.month (d.day + 1)
  else if d.month < 12 then of? d.year (d.month + 1) 1
  else of? (d.year + 1) 1 1

/-- So many steps to the day after lead from a date to another. -/
inductive DaysFrom : Nat → Date → Date → Prop where
  | here (d : Date) : DaysFrom 0 d d
  | step {n : Nat} {d e f : Date} (h : d.next? = some e) (rest : DaysFrom n e f) :
      DaysFrom (n + 1) d f

theorem of?_eq_some_iff {year : Int} {month day : Nat} {d : Date} :
    of? year month day = some d ↔ d.year = year ∧ d.month = month ∧ d.day = day := by
  refine ⟨of?_eq_some, ?_⟩
  rintro ⟨rfl, rfl, rfl⟩
  exact of?_self d

theorem isSome_of?_iff {year : Int} {month day : Nat} : (of? year month day).isSome ↔
    firstYear ≤ year ∧ year ≤ lastYear ∧ 1 ≤ day ∧ day ≤ monthLength year month := by
  unfold of?
  split <;> simp [*]

theorem dayNumber_inj {d e : Date} (h : d.dayNumber = e.dayNumber) : d = e := by
  have hd := d.ofDayNumber?_dayNumber
  rw [h, e.ofDayNumber?_dayNumber] at hd
  exact (Option.some.inj hd).symm

theorem dayNumber_le_last (d : Date) : d.dayNumber ≤ last.dayNumber := by
  have hd := d.dayNumber_bounds.2
  have hyear := daysBeforeYear_mono (show d.year + 1 ≤ lastYear + 1 by have := d.valid; omega)
  have hlast : last.dayNumber = daysBeforeYear (lastYear + 1) - 1 := rfl
  omega

theorem first_le_dayNumber (d : Date) : first.dayNumber ≤ d.dayNumber := by
  have hd := d.dayNumber_bounds.1
  have hyear := daysBeforeYear_mono d.valid.1
  have hfirst : first.dayNumber = daysBeforeYear firstYear := rfl
  omega

theorem dayNumber_next {d e : Date} (h : d.next? = some e) : e.dayNumber = d.dayNumber + 1 := by
  have hv := d.valid
  have hm := d.month_range
  unfold next? at h
  split at h
  · obtain ⟨hy, hmonth, hday⟩ := of?_eq_some h
    unfold dayNumber ordinal
    rw [hy, hmonth, hday]
    omega
  · split at h
    · obtain ⟨hy, hmonth, hday⟩ := of?_eq_some h
      unfold dayNumber ordinal
      rw [hy, hmonth, hday, daysBeforeMonth]
      omega
    · obtain ⟨hy, hmonth, hday⟩ := of?_eq_some h
      have hlast : d.month = 12 := by omega
      have hyear := daysBeforeYear_succ d.year
      have hone : daysBeforeMonth (d.year + 1) 1 = 0 := rfl
      have hlength := daysBeforeMonth_thirteen d.year
      rw [daysBeforeMonth, ← hlast] at hlength
      unfold dayNumber ordinal
      rw [hy, hmonth, hday, hone]
      omega

theorem exists_next {d : Date} (h : d.dayNumber < last.dayNumber) : ∃ e, d.next? = some e := by
  rw [← Option.isSome_iff_exists]
  have hv := d.valid
  have hm := d.month_range
  unfold next?
  split
  · rw [isSome_of?_iff]
    omega
  · split
    · have hpos := monthLength_pos d.year (show 1 ≤ d.month + 1 by omega) (by omega)
      rw [isSome_of?_iff]
      omega
    · have hmonth : d.month = 12 := by omega
      have hday : d.day = 31 := by
        have hlength : monthLength d.year 12 = 31 := rfl
        rw [← hmonth] at hlength
        omega
      have hyear : d.year ≠ lastYear := by
        intro hy
        have hd : of? lastYear 12 31 = some d := by
          rw [← hy, ← hmonth, ← hday]
          exact of?_self d
        obtain rfl : last = d := Option.some.inj hd
        exact Int.lt_irrefl _ h
      have hpos := monthLength_pos (d.year + 1) (Nat.le_refl 1) (by omega)
      rw [isSome_of?_iff]
      omega

theorem DaysFrom.dayNumber_eq {n : Nat} {d e : Date} (h : DaysFrom n d e) :
    e.dayNumber = d.dayNumber + n := by
  induction h with
  | here d => omega
  | step h _ ih =>
    have hstep := dayNumber_next h
    omega

/-- Steps to the day after count the difference of day numbers. -/
theorem daysFrom_iff {n : Nat} {d e : Date} :
    DaysFrom n d e ↔ e.dayNumber = d.dayNumber + n := by
  refine ⟨DaysFrom.dayNumber_eq, ?_⟩
  intro h
  -- The day that is reached bounds the number of every day before it, so each of those has a next.
  induction n generalizing d with
  | zero =>
    obtain rfl : d = e := dayNumber_inj (by omega)
    exact .here d
  | succ n ih =>
    have he := e.dayNumber_le_last
    obtain ⟨f, hf⟩ := exists_next (d := d) (by omega)
    have hstep := dayNumber_next hf
    exact .step hf (ih (by omega))

theorem next?_eq_some_iff {d e : Date} : d.next? = some e ↔ e.dayNumber = d.dayNumber + 1 := by
  refine ⟨dayNumber_next, ?_⟩
  intro h
  obtain ⟨f, hf⟩ := exists_next (d := d) (by have := e.dayNumber_le_last; omega)
  have hstep := dayNumber_next hf
  obtain rfl : e = f := dayNumber_inj (by omega)
  exact hf

theorem addDays?_eq_some_iff {d e : Date} {days : Int} :
    d.addDays? days = some e ↔ e.dayNumber = d.dayNumber + days := by
  unfold addDays?
  refine ⟨dayNumber_of_ofDayNumber?, ?_⟩
  intro h
  rw [← h]
  exact e.ofDayNumber?_dayNumber

/-- Every number between those of the first and the last day is the number of a day. -/
theorem exists_dayNumber {n : Int} (hf : first.dayNumber ≤ n) (hl : n ≤ last.dayNumber) :
    ∃ d : Date, d.dayNumber = n := by
  have hcount : ∀ k : Nat, first.dayNumber + k ≤ last.dayNumber →
      ∃ d : Date, d.dayNumber = first.dayNumber + k := by
    intro k hk
    induction k with
    | zero => exact ⟨first, by omega⟩
    | succ k ih =>
      obtain ⟨d, hd⟩ := ih (by omega)
      obtain ⟨e, he⟩ := exists_next (d := d) (by omega)
      have hstep := dayNumber_next he
      exact ⟨e, by omega⟩
  obtain ⟨d, hd⟩ := hcount (n - first.dayNumber).toNat (by omega)
  exact ⟨d, by omega⟩

theorem isSome_addDays?_iff {d : Date} {days : Int} (h : 0 ≤ days) :
    (d.addDays? days).isSome ↔ d.dayNumber + days ≤ last.dayNumber := by
  rw [Option.isSome_iff_exists]
  simp only [addDays?_eq_some_iff]
  constructor
  · rintro ⟨e, he⟩
    rw [← he]
    exact e.dayNumber_le_last
  · intro hl
    exact exists_dayNumber (by have := d.first_le_dayNumber; omega) hl

end Date
end PermitPolicy.Calendar
