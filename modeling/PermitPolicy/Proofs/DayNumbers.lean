import PermitPolicy.Calendar.Read

/-! Day numbers, days of the year and weeks.  Each way of naming a day that reading falls back
on (a day of the year, a week counted from the first Sunday or Monday, a week of the year of
weeks) gives back the date whose day it names, and a date only for the year that was named. -/

namespace PermitPolicy.Calendar
set_option autoImplicit false

theorem isLeapYear_iff (year : Int) :
    isLeapYear year = true ↔ year % 4 = 0 ∧ (year % 100 ≠ 0 ∨ year % 400 = 0) := by
  simp [isLeapYear]

theorem daysBeforeYear_succ (year : Int) :
    daysBeforeYear (year + 1) = daysBeforeYear year + yearLength year := by
  unfold daysBeforeYear yearLength
  have hleap := isLeapYear_iff year
  split
  · rename_i h
    have := hleap.mp h
    omega
  · rename_i h
    have : ¬ _ := fun hn => h (hleap.mpr hn)
    omega

theorem yearLength_bounds (year : Int) : 365 ≤ yearLength year ∧ yearLength year ≤ 366 := by
  unfold yearLength
  split <;> omega

theorem yearOfDayNumber_eq {n year : Int} (hl : daysBeforeYear year ≤ n)
    (hu : n < daysBeforeYear (year + 1)) : yearOfDayNumber n = year := by
  have hguess : n * 400 / 146097 + 1 = year - 1 ∨ n * 400 / 146097 + 1 = year := by
    unfold daysBeforeYear at hl hu
    omega
  unfold yearOfDayNumber
  rcases hguess with h | h
  · have hlast := daysBeforeYear_succ (year - 1)
    have hlength := yearLength_bounds (year - 1)
    simp only [h, Int.sub_add_cancel] at hlast ⊢
    rw [if_neg (by omega), if_pos (by omega)]
  · simp only [h]
    rw [if_neg (by omega), if_neg (by omega)]

theorem daysBeforeMonth_thirteen (year : Int) : daysBeforeMonth year 13 = yearLength year := by
  simp only [daysBeforeMonth, monthLength, yearLength]
  split <;> rfl

theorem daysBeforeMonth_mono (year : Int) {m n : Nat} (h : m ≤ n) :
    daysBeforeMonth year m ≤ daysBeforeMonth year n := by
  induction h with
  | refl => exact Nat.le_refl _
  | step _ ih =>
    rw [daysBeforeMonth]
    omega

theorem month_bounds {year : Int} {month : Nat} (h : monthLength year month ≠ 0) :
    1 ≤ month ∧ month ≤ 12 := by
  unfold monthLength at h
  split at h <;> simp_all

/-- A day of a month is found again among the months from an earlier one on. -/
theorem monthDay_daysBeforeMonth {year : Int} {month day : Nat} (hd : 1 ≤ day)
    (hl : day ≤ monthLength year month) {tries first : Nat} (hf : first ≤ month)
    (ht : month ≤ first + tries) :
    monthDay year tries first
      (daysBeforeMonth year month + day - daysBeforeMonth year first) = (month, day) := by
  induction tries generalizing first with
  | zero =>
    have : first = month := by omega
    subst this
    rw [monthDay, Nat.add_sub_cancel_left]
  | succ tries ih =>
    rw [monthDay]
    by_cases he : first = month
    · subst he
      rw [Nat.add_sub_cancel_left, if_pos hl]
    · have hmono := daysBeforeMonth_mono year (show first + 1 ≤ month by omega)
      rw [daysBeforeMonth] at hmono
      rw [if_neg (by omega)]
      have hrest : daysBeforeMonth year month + day - daysBeforeMonth year first -
          monthLength year first =
            daysBeforeMonth year month + day - daysBeforeMonth year (first + 1) := by
        rw [daysBeforeMonth]
        omega
      rw [hrest]
      exact ih (by omega) (by omega)

/-- The month and day of a day of the year stand for that day. -/
theorem daysBeforeMonth_monthDay (year : Int) (tries first n : Nat) :
    daysBeforeMonth year (monthDay year tries first n).1 + (monthDay year tries first n).2 =
      daysBeforeMonth year first + n := by
  induction tries generalizing first n with
  | zero => rfl
  | succ tries ih =>
    rw [monthDay]
    split
    · rfl
    · rename_i h
      rw [ih, daysBeforeMonth]
      omega

namespace Weekday

theorem fromMonday_le (w : Weekday) : w.fromMonday ≤ 6 := by cases w <;> decide

theorem fromSunday_le (w : Weekday) : w.fromSunday ≤ 6 := by cases w <;> decide

theorem ofMonday_fromSunday (w : Weekday) : ofMonday ((w.fromSunday : Int) + 6).toNat = w := by
  cases w <;> decide

theorem fromMonday_ofMonday {n : Nat} (h : n < 7) : (ofMonday n).fromMonday = n := by
  have hall : ∀ n, n < 7 → (ofMonday n).fromMonday = n := by decide
  exact hall n h

theorem fromSunday_ofMonday {n : Nat} (h : n < 7) : (ofMonday (n + 6)).fromSunday = n := by
  have hall : ∀ n, n < 7 → (ofMonday (n + 6)).fromSunday = n := by decide
  exact hall n h

end Weekday

namespace Date
variable (d : Date)

theorem month_range : 1 ≤ d.month ∧ d.month ≤ 12 := by
  have hv := d.valid
  have hl : monthLength d.year d.month ≠ 0 := by omega
  exact month_bounds hl

theorem day_range : 1 ≤ d.day ∧ d.day ≤ 31 := by
  have hv := d.valid
  have hl : monthLength d.year d.month ≤ 31 := by
    unfold monthLength
    repeat' split
    all_goals omega
  omega

theorem quarter_range : 1 ≤ d.quarter ∧ d.quarter ≤ 4 := by
  have := d.month_range
  unfold quarter
  omega

theorem ordinal_bounds : 1 ≤ d.ordinal ∧ d.ordinal ≤ yearLength d.year := by
  have hv := d.valid
  have hm := d.month_range
  have hend := daysBeforeMonth_mono d.year (show d.month + 1 ≤ 13 by omega)
  rw [daysBeforeMonth_thirteen, daysBeforeMonth] at hend
  unfold ordinal
  omega

theorem ofOrdinal?_ordinal : ofOrdinal? d.year d.ordinal = some d := by
  have hv := d.valid
  have hm := d.month_range
  have hfirst : daysBeforeMonth d.year 1 = 0 := rfl
  have hmonth : monthDay d.year 11 1 _ = _ :=
    monthDay_daysBeforeMonth hv.2.2.1 hv.2.2.2 hm.1 (by omega)
  rw [hfirst, Nat.sub_zero] at hmonth
  unfold ofOrdinal?
  rw [if_pos d.ordinal_bounds]
  unfold ordinal
  rw [hmonth]
  exact of?_self d

theorem of_ofOrdinal? {year : Int} {n : Nat} {d : Date} (h : ofOrdinal? year n = some d) :
    d.year = year ∧ d.ordinal = n := by
  unfold ofOrdinal? at h
  split at h
  · have hof : of? year (monthDay year 11 1 n).1 (monthDay year 11 1 n).2 = some d := h
    obtain ⟨hy, hm, hd⟩ := of?_eq_some hof
    have hsum := daysBeforeMonth_monthDay year 11 1 n
    rw [← hm, ← hd] at hsum
    refine ⟨hy, ?_⟩
    unfold ordinal
    rw [hy, hsum]
    exact Nat.zero_add n
  · cases h

theorem dayNumber_bounds :
    daysBeforeYear d.year ≤ d.dayNumber ∧ d.dayNumber < daysBeforeYear (d.year + 1) := by
  have ho := d.ordinal_bounds
  have hy := daysBeforeYear_succ d.year
  unfold dayNumber
  omega

theorem ofDayNumber?_dayNumber : ofDayNumber? d.dayNumber = some d := by
  have hy : yearOfDayNumber d.dayNumber = d.year :=
    yearOfDayNumber_eq d.dayNumber_bounds.1 d.dayNumber_bounds.2
  have ho : (d.dayNumber - daysBeforeYear d.year + 1).toNat = d.ordinal := by
    unfold dayNumber
    omega
  simp only [ofDayNumber?, hy, ho]
  exact d.ofOrdinal?_ordinal

theorem dayNumber_of_ofDayNumber? {n : Int} {d : Date} (h : ofDayNumber? n = some d) :
    d.dayNumber = n := by
  obtain ⟨hy, ho⟩ := of_ofOrdinal? h
  have hpos := d.ordinal_bounds.1
  unfold dayNumber
  rw [hy]
  omega

theorem dayNumber_lt_of_year {d e : Date} (h : d.year < e.year) : d.dayNumber < e.dayNumber := by
  have hd := d.dayNumber_bounds.2
  have he := e.dayNumber_bounds.1
  unfold daysBeforeYear at hd he
  omega

theorem ordinal_lt_of_month {d e : Date} (hy : d.year = e.year) (h : d.month < e.month) :
    d.ordinal < e.ordinal := by
  have hbefore := daysBeforeMonth_mono d.year (show d.month + 1 ≤ e.month from h)
  have hday := d.valid.2.2.2
  have hpos := e.valid.2.2.1
  rw [daysBeforeMonth] at hbefore
  unfold ordinal
  rw [← hy]
  omega

/-- Calendar order is the order of day numbers. -/
theorem before_iff {d e : Date} : d.before e = true ↔ d.dayNumber < e.dayNumber := by
  simp only [before, Bool.or_eq_true, Bool.and_eq_true, decide_eq_true_eq, beq_iff_eq]
  rcases Int.lt_trichotomy d.year e.year with hy | hy | hy
  · have := dayNumber_lt_of_year hy
    omega
  · have hnumber : d.dayNumber < e.dayNumber ↔ d.ordinal < e.ordinal := by
      unfold dayNumber
      rw [hy]
      omega
    rw [hnumber]
    rcases Nat.lt_trichotomy d.month e.month with hm | hm | hm
    · have := ordinal_lt_of_month hy hm
      omega
    · unfold ordinal
      rw [hy, hm]
      omega
    · have := ordinal_lt_of_month hy.symm hm
      omega
  · have := dayNumber_lt_of_year hy
    omega

theorem fromMonday_weekday : (d.weekday.fromMonday : Int) = d.dayNumber % 7 := by
  unfold weekday
  rw [Weekday.fromMonday_ofMonday (by omega)]
  omega

theorem isoYearStart_bounds (year : Int) :
    daysBeforeYear year - 3 ≤ isoYearStart year ∧ isoYearStart year ≤ daysBeforeYear year + 3 ∧
      isoYearStart year % 7 = 0 := by
  simp only [isoYearStart]
  omega

theorem isoYearStart_lt {y z : Int} (h : y < z) : isoYearStart y < isoYearStart z := by
  have hy := isoYearStart_bounds y
  have hz := isoYearStart_bounds z
  unfold daysBeforeYear at hy hz
  omega

theorem isoYear_range : d.year - 1 ≤ d.isoYear ∧ d.isoYear ≤ d.year + 1 := by
  unfold isoYear
  split
  · omega
  · split <;> omega

/-- The week of a date lies within its year of weeks. -/
theorem isoYear_bounds :
    isoYearStart d.isoYear ≤ d.dayNumber ∧ d.dayNumber < isoYearStart (d.isoYear + 1) := by
  have hn := d.dayNumber_bounds
  unfold isoYear
  split
  · have hs := isoYearStart_bounds (d.year - 1)
    have hy := daysBeforeYear_succ (d.year - 1)
    have hl := yearLength_bounds (d.year - 1)
    rw [Int.sub_add_cancel] at hy ⊢
    omega
  · split
    · have hs := isoYearStart_bounds (d.year + 1 + 1)
      have hy := daysBeforeYear_succ (d.year + 1)
      have hl := yearLength_bounds (d.year + 1)
      omega
    · omega

theorem isoYear_eq {year : Int} (hl : isoYearStart year ≤ d.dayNumber)
    (hu : d.dayNumber < isoYearStart (year + 1)) : d.isoYear = year := by
  have hd := d.isoYear_bounds
  rcases Int.lt_trichotomy d.isoYear year with h | h | h
  · rcases Int.lt_or_eq_of_le (show d.isoYear + 1 ≤ year by omega) with h' | h'
    · have := isoYearStart_lt h'
      omega
    · rw [h'] at hd
      omega
  · exact h
  · rcases Int.lt_or_eq_of_le (show year + 1 ≤ d.isoYear by omega) with h' | h'
    · have := isoYearStart_lt h'
      omega
    · rw [h'] at hu
      omega

theorem isoWeek_bounds :
    1 ≤ d.isoWeek ∧ d.isoWeek ≤ isoWeeksOfYear d.isoYear ∧ d.isoWeek ≤ 53 ∧
      isoYearStart d.isoYear + 7 * (d.isoWeek - 1 : Nat) + d.weekday.fromMonday =
        d.dayNumber := by
  have hd := d.isoYear_bounds
  have hs := isoYearStart_bounds d.isoYear
  have hn := isoYearStart_bounds (d.isoYear + 1)
  have hy := daysBeforeYear_succ d.isoYear
  have hl := yearLength_bounds d.isoYear
  have hw := d.fromMonday_weekday
  unfold isoWeek isoWeeksOfYear
  omega

theorem ofIsoWeek?_isoWeek : ofIsoWeek? d.isoYear d.isoWeek d.weekday = some d := by
  obtain ⟨hone, hlast, _, hn⟩ := d.isoWeek_bounds
  unfold ofIsoWeek?
  rw [if_pos ⟨hone, hlast⟩, hn]
  exact d.ofDayNumber?_dayNumber

theorem of_ofIsoWeek? {year : Int} {week : Nat} {weekday : Weekday} {d : Date}
    (h : ofIsoWeek? year week weekday = some d) :
    d.isoYear = year ∧ d.isoWeek = week ∧ d.weekday = weekday := by
  unfold ofIsoWeek? at h
  split at h
  · rename_i hw
    have hn := dayNumber_of_ofDayNumber? h
    have hd := weekday.fromMonday_le
    have hs := isoYearStart_bounds year
    have hs' := isoYearStart_bounds (year + 1)
    have hy : d.isoYear = year := by
      unfold isoWeeksOfYear at hw
      apply d.isoYear_eq
      · omega
      · omega
    refine ⟨hy, ?_, ?_⟩
    · unfold isoWeek
      rw [hy, hn]
      omega
    · have hday := d.fromMonday_weekday
      have heq : d.weekday.fromMonday = weekday.fromMonday := by omega
      rw [← Weekday.ofMonday_fromMonday d.weekday, heq, Weekday.ofMonday_fromMonday]
  · cases h

theorem weekFrom_le (start : Weekday) : d.weekFrom start ≤ 53 := by
  have ho := d.ordinal_bounds
  have hl := yearLength_bounds d.year
  unfold weekFrom
  omega

end Date

namespace DateClues

theorem exists_firstOfYear (d : Date) :
    ∃ first, Date.of? d.year 1 1 = some first ∧ first.dayNumber = daysBeforeYear d.year := by
  have hv := d.valid
  have hone : 1 ≤ monthLength d.year 1 := by simp [monthLength]
  refine ⟨⟨d.year, 1, 1, hv.1, hv.2.1, Nat.le_refl 1, hone⟩, ?_, ?_⟩
  · unfold Date.of?
    rw [dif_pos ⟨hv.1, hv.2.1, Nat.le_refl 1, hone⟩]
  · have ho : Date.ordinal ⟨d.year, 1, 1, hv.1, hv.2.1, Nat.le_refl 1, hone⟩ = 1 := rfl
    unfold Date.dayNumber
    rw [ho]
    exact Int.add_sub_cancel _ 1

theorem ofWeek_eq {year : Int} {first : Date} (hf : Date.of? year 1 1 = some first)
    (week : Int) (weekday start : Weekday) :
    ofWeek year week weekday start =
      let ordinal : Int :=
        1 + start.since first.weekday + (week - 1) * 7 + weekday.since start
      if ordinal ≤ 0 then .error .impossible
      else orFault .impossible (Date.ofOrdinal? year ordinal.toNat) := by
  unfold ofWeek
  rw [hf]
  rfl

theorem orFault_eq_ok {fault : DateFault} {o : Option Date} {d : Date} :
    orFault fault o = .ok d ↔ o = some d := by
  cases o <;> simp [orFault]

theorem ofWeek_weekFrom (d : Date) (start : Weekday) :
    ofWeek d.year (d.weekFrom start) d.weekday start = .ok d := by
  obtain ⟨first, hf, hn⟩ := exists_firstOfYear d
  have hfirst := first.fromMonday_weekday
  have hday := d.fromMonday_weekday
  have hstart : start.fromMonday ≤ 6 := by cases start <;> decide
  have ho := d.ordinal_bounds
  have hd : d.dayNumber = daysBeforeYear d.year + d.ordinal - 1 := rfl
  have hordinal : (1 + (start.since first.weekday : Nat) + ((d.weekFrom start : Nat) - 1) * 7 +
      (d.weekday.since start : Nat) : Int) = d.ordinal := by
    unfold Date.weekFrom Weekday.since
    omega
  simp only [ofWeek_eq hf, hordinal]
  rw [if_neg (by omega), orFault_eq_ok]
  exact d.ofOrdinal?_ordinal

theorem year_of_ofWeek {year week : Int} {weekday start : Weekday} {d : Date}
    (h : ofWeek year week weekday start = .ok d) : d.year = year := by
  cases hf : Date.of? year 1 1 with
  | none =>
    unfold ofWeek at h
    rw [hf] at h
    cases h
  | some first =>
    rw [ofWeek_eq hf] at h
    dsimp only at h
    split at h
    · cases h
    · exact (Date.of_ofOrdinal? (orFault_eq_ok.mp h)).1

end DateClues
end PermitPolicy.Calendar
