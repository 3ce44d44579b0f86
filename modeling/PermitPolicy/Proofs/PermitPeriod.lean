import PermitPolicy.Proofs.PermitYear

/-! The last day of a permit.  The first day counts, so a permit of `n` days ends `n - 1` days after
it; a permit that begins on the day after another one has ended makes one period with it, and a
permit of a whole permit year ends on the eve of the same date one year later.  The same day comes
out in words of 64 bits, without an overflow for any duration. -/

namespace PermitPolicy
open Calendar
set_option autoImplicit false

variable {start d e : Date} {m n : Int}

theorem expiryDate?_eq_some_iff :
    expiryDate? start n = some e ↔ 1 ≤ n ∧ e.dayNumber = start.dayNumber + (n - 1) := by
  unfold expiryDate?
  split
  · simp only [reduceCtorEq, false_iff, not_and]
    omega
  · rw [Date.addDays?_eq_some_iff]
    simp only [iff_and_self]
    omega

theorem isSome_expiryDate?_iff : (expiryDate? start n).isSome ↔
    1 ≤ n ∧ start.dayNumber + (n - 1) ≤ Date.last.dayNumber := by
  unfold expiryDate?
  split
  · simp only [Option.isSome_none, Bool.false_eq_true, false_iff, not_and]
    omega
  · rw [Date.isSome_addDays?_iff (by omega)]
    simp only [iff_and_self]
    omega

/-- More days than the calendar can be asked to add lead out of it from any date. -/
theorem addDays?_of_longer {days : Int} (h : longestStep < days) : start.addDays? days = none := by
  have hwide : Date.last.dayNumber - Date.first.dayNumber < longestStep := by decide
  have hfirst := start.first_le_dayNumber
  have hpos : (0 : Int) ≤ longestStep := Int.natCast_nonneg _
  rw [← Option.not_isSome_iff_eq_none, Date.isSome_addDays?_iff (by omega)]
  omega

/-- A word that is at least one can be lowered by one, with a sign or without. -/
theorem toNat_sub_one {word : BitVec 64} (h : 1 ≤ word.toInt) :
    word.ssubOverflow 1 = false ∧ ((word - 1).toNat : Int) = word.toInt - 1 := by
  have hone : (1 : BitVec 64).toInt = 1 := rfl
  have hmost : word.toInt < 2 ^ 63 := word.toInt_lt
  have hvalue : word.toInt = word.toNat := by
    rw [BitVec.toInt_eq_toNat_cond] at h ⊢
    split
    · rfl
    · omega
  constructor
  · rw [BitVec.ssubOverflow, hone, Bool.or_eq_false_iff, decide_eq_false_iff_not,
      decide_eq_false_iff_not]
    omega
  · have hle : (1 : BitVec 64) ≤ word := by
      rw [BitVec.le_def]
      have hnat : (1 : BitVec 64).toNat = 1 := rfl
      omega
    rw [BitVec.toNat_sub_of_le hle, hvalue]
    have hnat : (1 : BitVec 64).toNat = 1 := rfl
    omega

theorem expiryDateInWords?_eq (start : Date) (duration : BitVec 64) :
    expiryDateInWords? start duration = some (expiryDate? start duration.toInt) := by
  have hone : (1 : BitVec 64).toInt = 1 := rfl
  unfold expiryDateInWords? expiryDate?
  simp only [BitVec.slt_iff_toInt_lt, hone]
  split
  · rfl
  · have hleast : 1 ≤ duration.toInt := by omega
    obtain ⟨hfits, hdays⟩ := toNat_sub_one hleast
    simp only [hfits, Bool.false_eq_true, if_false, hdays]
    split
    · rfl
    -- What is too long a step for the calendar leads out of its range as well.
    · rename_i hlong
      rw [addDays?_of_longer (by omega)]

theorem expiryDate?_lt_iff (hd : expiryDate? start m = some d)
    (he : expiryDate? start n = some e) : m < n ↔ d.before e = true := by
  rw [expiryDate?_eq_some_iff] at hd he
  rw [Date.before_iff]
  omega

/-- A permit that begins on the last day of another one lasts as if it had begun with that one,
the day they share counted once. -/
theorem expiryDate?_compose (hd : expiryDate? start m = some d) (hn : 1 ≤ n) :
    expiryDate? d n = expiryDate? start (m + n - 1) := by
  rw [expiryDate?_eq_some_iff] at hd
  apply Option.ext
  intro e
  rw [expiryDate?_eq_some_iff, expiryDate?_eq_some_iff, hd.2]
  omega

theorem expiryDate?_permitYear (h : daysInPermitYear? start = some n) :
    ∃ later eve, start.YearLater later ∧ expiryDate? start n = some eve ∧
      eve.next? = some later := by
  obtain ⟨later, hlater, hdays⟩ := daysInPermitYear?_eq_some_iff.mp h
  have hpos : 1 ≤ n := by
    rcases hlater.dayNumber_by_leap_days with ⟨-, hlong⟩ | ⟨-, hshort⟩ <;> omega
  have hfirst := start.first_le_dayNumber
  have hlast := later.dayNumber_le_last
  obtain ⟨eve, heve⟩ : ∃ eve : Date, eve.dayNumber = start.dayNumber + (n - 1) :=
    Date.exists_dayNumber (by omega) (by omega)
  refine ⟨later, eve, hlater, expiryDate?_eq_some_iff.mpr ⟨hpos, heve⟩, ?_⟩
  rw [Date.next?_eq_some_iff]
  omega

/-- A permit of `n` days ends `n - 1` steps to the day after its first one, if `n` is at least one
and that day is in the range, and in words of 64 bits as without bounds.  So a longer permit ends
later, periods compose, and a permit year ends on the eve of its anniversary. -/
theorem expiryDate?_counts_days (start : Date) :
    (∀ n e, expiryDate? start n = some e ↔ 1 ≤ n ∧ Date.DaysFrom (n - 1).toNat start e) ∧
      (∀ n, (expiryDate? start n).isSome ↔
        1 ≤ n ∧ start.dayNumber + (n - 1) ≤ Date.last.dayNumber) ∧
      (∀ duration : BitVec 64,
        expiryDateInWords? start duration = some (expiryDate? start duration.toInt)) ∧
      (∀ m n d e, expiryDate? start m = some d → expiryDate? start n = some e →
        (m < n ↔ d.before e = true)) ∧
      (∀ m n d, expiryDate? start m = some d → 1 ≤ n →
        expiryDate? d n = expiryDate? start (m + n - 1)) ∧
      ∀ days, daysInPermitYear? start = some days →
        ∃ later eve, start.YearLater later ∧ expiryDate? start days = some eve ∧
          eve.next? = some later := by
  refine ⟨?_, ?_, ?_, ?_, ?_, ?_⟩
  · intro n e
    rw [expiryDate?_eq_some_iff, Date.daysFrom_iff]
    exact and_congr_right fun hn => by rw [Int.toNat_of_nonneg (by omega)]
  · intro n
    exact isSome_expiryDate?_iff
  · exact expiryDateInWords?_eq start
  · intro m n d e hd he
    exact expiryDate?_lt_iff hd he
  · intro m n d hd hn
    exact expiryDate?_compose hd hn
  · intro days hdays
    exact expiryDate?_permitYear hdays

/-- Permits that begin on a leap day, for a year and for the least and the greatest word. -/
theorem expiryDate?_counts_days_leap_day :
    let start : Date := ⟨2024, 2, 29, by decide⟩
    let eve : Date := ⟨2025, 2, 27, by decide⟩
    daysInPermitYear? start = some 365 ∧ expiryDate? start 365 = some eve ∧
      Date.DaysFrom 364 start eve ∧ (∃ later, start.YearLater later ∧ eve.next? = some later) ∧
      expiryDate? eve 2 = expiryDate? start 366 ∧
      (⟨2025, 2, 26, by decide⟩ : Date).before eve = true ∧
      expiryDateInWords? start (BitVec.intMin 64) = some none ∧
      expiryDateInWords? start (BitVec.intMax 64) = some none := by
  intro start eve
  obtain ⟨hcount, hrange, hwords, hlonger, hcompose, hyear⟩ := expiryDate?_counts_days start
  have hdays : daysInPermitYear? start = some 365 := by decide
  obtain ⟨later, day, hlater, hday, hnext⟩ := hyear 365 hdays
  have heve : expiryDate? start 365 = some eve := by decide
  have hday : day = eve := Option.some.inj (hday.symm.trans heve)
  have hshorter := hlonger 364 365 ⟨2025, 2, 26, by decide⟩ eve (by decide) heve
  refine ⟨hdays, heve, ((hcount 365 eve).mp heve).2, ⟨later, hlater, hday ▸ hnext⟩,
    hcompose 365 2 eve heve (by decide), hshorter.mp (by decide), ?_, ?_⟩
  · rw [hwords]
    rfl
  · rw [hwords]
    apply congrArg some
    rw [← Option.not_isSome_iff_eq_none, hrange]
    decide

end PermitPolicy
