import PermitPolicy.Basic
import PermitPolicy.Proofs.DateClues
import PermitPolicy.Proofs.Numerals

/-! What the items of a format write and tell.  A number is written as a numeral of the number
that the date has, unless it is a century of three places, and the clues that numbers of a date
are have it among what they tell.  The items of a format are proper: literal text without blanks,
and blanks. -/

namespace PermitPolicy.Calendar
set_option autoImplicit false

namespace DateNumber

/-- The number that a date has, as it is written: of a century eight bits are kept. -/
def value (d : Date) : DateNumber → Int
  | .year => d.year
  | .century => d.year / 100 % 256
  | .yearOfCentury => d.year % 100
  | .isoYear => d.isoYear
  | .isoYearOfCentury => d.isoYear % 100
  | .quarter => d.quarter
  | .month => d.month
  | .day => d.day
  | .ordinal => d.ordinal
  | .weekFromSunday => d.weekFrom .sunday
  | .weekFromMonday => d.weekFrom .monday
  | .isoWeek => d.isoWeek
  | .weekdayFromSunday => d.weekday.fromSunday
  | .weekdayFromMonday => (d.weekday.fromMonday + 1 : Nat)

/-- What is told by a number: both numbers of a weekday tell the weekday. -/
def clue : DateNumber → DateNumber
  | .weekdayFromSunday => .weekdayFromMonday
  | what => what

end DateNumber

/-- A century above 99 is not written in digits. -/
def Legible (d : Date) (what : DateNumber) : Prop := what = .century → d.year / 100 % 256 < 100

theorem numeral_writeTwo (padding : Padding) {what : DateNumber} (hw : what.width = 2) {n : Nat}
    (hn : n < 100) : Numeral what (padding.writeTwo n) n := by
  rw [writeTwo_eq_fill padding hn]
  apply numeral_fill
  · omega
  · have hpow : tenPow 2 = 100 := rfl
    rw [hw]
    omega
  · omega
  · omega

theorem numeral_toDigits {what : DateNumber} (hw : 0 < what.width) {n : Nat} (hn : n < 10) :
    Numeral what (Nat.toDigits 10 n) n := by
  have hpow : tenPow 1 ≤ tenPow what.width :=
    show 10 ^ 1 ≤ 10 ^ what.width from Nat.pow_le_pow_right (by decide) hw
  have hfill : Numeral what (Padding.none.fill 0 [] (Nat.toDigits 10 n)) n := by
    apply numeral_fill
    · omega
    · exact Nat.lt_of_lt_of_le hn hpow
    · exact hw
    · omega
  exact hfill

/-- What a date writes for a number is that number, unless it is a century of three places. -/
theorem numeral_write (d : Date) (padding : Padding) {what : DateNumber} (h : Legible d what) :
    Numeral what (what.write padding d) (what.value d) := by
  have hy : -262143 ≤ d.year ∧ d.year ≤ 262142 := ⟨d.valid.1, d.valid.2.1⟩
  have hiso := d.isoYear_range
  have htwo : ∀ n : Int, 0 ≤ n → n < 100 → what.width = 2 →
      Numeral what (padding.writeTwo n.toNat) n := by
    intro n h0 h100 hw
    have hn := numeral_writeTwo padding hw (n := n.toNat) (by omega)
    rwa [Int.toNat_of_nonneg h0] at hn
  cases what with
  | year => exact numeral_writeYear padding rfl rfl (by omega)
  | century => exact htwo _ (by omega) (h rfl) rfl
  | yearOfCentury => exact htwo _ (by omega) (by omega) rfl
  | isoYear => exact numeral_writeYear padding rfl rfl (by omega)
  | isoYearOfCentury => exact htwo _ (by omega) (by omega) rfl
  | quarter => exact numeral_toDigits (by decide) (by have := d.quarter_range; omega)
  | month => exact numeral_writeTwo padding rfl (by have := d.month_range; omega)
  | day => exact numeral_writeTwo padding rfl (by have := d.day_range; omega)
  | ordinal =>
    have ho := d.ordinal_bounds
    have hl := yearLength_bounds d.year
    have hn : d.ordinal < tenPow DateNumber.ordinal.width := show d.ordinal < 1000 by omega
    exact numeral_fill padding 3 (Nat.le_refl 3) hn (by decide) (by omega)
  | weekFromSunday => exact numeral_writeTwo padding rfl (by have := d.weekFrom_le .sunday; omega)
  | weekFromMonday => exact numeral_writeTwo padding rfl (by have := d.weekFrom_le .monday; omega)
  | isoWeek => exact numeral_writeTwo padding rfl (by have := d.isoWeek_bounds; omega)
  | weekdayFromSunday =>
    exact numeral_toDigits (by decide) (by have := d.weekday.fromSunday_le; omega)
  | weekdayFromMonday =>
    exact numeral_toDigits (by decide) (by have := d.weekday.fromMonday_le; omega)

theorem read_illegible {d : Date} (h : ¬ Legible d .century) (padding : Padding)
    (rest : List Char) :
    DateNumber.century.read (DateNumber.write padding d .century ++ rest) = .error .invalid := by
  have hl : ¬ d.year / 100 % 256 < 100 := fun hn => h fun _ => hn
  have hn : 100 ≤ (d.year / 100 % 256).toNat ∧ (d.year / 100 % 256).toNat < 256 := by omega
  have htens : ∀ k, k < 26 → 10 ≤ k → (Char.ofNat ('0'.toNat + k)).isDigit = false ∧
      Text.isBlank (Char.ofNat ('0'.toNat + k)) = false := by decide
  obtain ⟨hdigit, hblank⟩ := htens ((d.year / 100 % 256).toNat / 10) (by omega) (by omega)
  have htext : DateNumber.write padding d .century =
      [Char.ofNat ('0'.toNat + (d.year / 100 % 256).toNat / 10),
        Char.ofNat ('0'.toNat + (d.year / 100 % 256).toNat % 10)] := if_neg (by omega)
  have hread : ∀ c cs, c.isDigit = false → Text.isBlank c = false →
      DateNumber.century.read (c :: cs) = .error .invalid := by
    intro c cs hd hb
    unfold DateNumber.read
    rw [Text.trimLeft_of_not_blank hb]
    simp [DateNumber.signed, readNumber, hd, bind, Except.bind]
  rw [htext]
  exact hread _ _ hdigit hblank

theorem agree_eq_ok {α : Type} [DecidableEq α] {known r : Option α} {new : α} :
    agree known new = .ok r ↔ DateClues.fits known new = true ∧ some new = r := by
  unfold agree
  cases known with
  | none => simp
  | some old =>
    by_cases h : old = new
    · simp [h]
    · simp [h]

theorem bounded_eq_ok {low high n m : Int} :
    bounded low high n = .ok m ↔ (low ≤ n ∧ n ≤ high) ∧ n = m := by
  unfold bounded
  split <;> simp [*]

theorem DateClues.setWeekday_eq_ok {c c' : DateClues} {w : Weekday} :
    c.setWeekday w = .ok c' ↔
      fits c.weekday w = true ∧ { c with weekday := some w } = c' := by
  simp only [setWeekday, bind_eq_ok, pure_eq_ok, agree_eq_ok]
  constructor
  · rintro ⟨_, ⟨h, rfl⟩, rfl⟩
    exact ⟨h, rfl⟩
  · rintro ⟨h, rfl⟩
    exact ⟨_, ⟨h, rfl⟩, rfl⟩

def told {α : Type} (said : List DateNumber) (what : DateNumber) (a : α) : Option α :=
  if what ∈ said then some a else none

@[simp] theorem told_cons_self {α : Type} (said : List DateNumber) (what : DateNumber) (a : α) :
    told (what :: said) what a = some a := if_pos List.mem_cons_self

@[simp] theorem told_cons_of_ne {α : Type} (said : List DateNumber) {what other : DateNumber}
    (h : what ≠ other) (a : α) : told (other :: said) what a = told said what a := by
  simp [told, h]

/-- The clues to a date that some of its numbers are. -/
def cluesOf (d : Date) (said : List DateNumber) : DateClues where
  year := told said .year d.year
  century := told said .century (d.year / 100 % 256)
  yearOfCentury := told said .yearOfCentury (d.year % 100)
  isoYear := told said .isoYear d.isoYear
  isoYearOfCentury := told said .isoYearOfCentury (d.isoYear % 100)
  quarter := told said .quarter d.quarter
  month := told said .month d.month
  day := told said .day d.day
  ordinal := told said .ordinal d.ordinal
  weekFromSunday := told said .weekFromSunday (d.weekFrom .sunday)
  weekFromMonday := told said .weekFromMonday (d.weekFrom .monday)
  isoWeek := told said .isoWeek d.isoWeek
  weekday := told said .weekdayFromMonday d.weekday

theorem fits_told {α : Type} [DecidableEq α] (said : List DateNumber) (what : DateNumber)
    (a b : α) : DateClues.fits (told said what a) b = true ↔ (what ∈ said → a = b) := by
  unfold told
  by_cases h : what ∈ said
  · simp [h]
  · simp [h]

theorem cluesOf_congr (d : Date) {said others : List DateNumber}
    (h : ∀ what, what ∈ said ↔ what ∈ others) : cluesOf d said = cluesOf d others := by
  simp only [cluesOf, told, h]

theorem setWeekday_cluesOf (d : Date) (said : List DateNumber) :
    (cluesOf d said).setWeekday d.weekday = .ok (cluesOf d (.weekdayFromMonday :: said)) := by
  rw [DateClues.setWeekday_eq_ok]
  refine ⟨(fits_told ..).mpr fun _ => rfl, ?_⟩
  simp [cluesOf]

/-- A number of the date adds itself to the clues that other numbers of it are. -/
theorem set_cluesOf (d : Date) (said : List DateNumber) (what : DateNumber) :
    (cluesOf d said).set (what.value d) what = .ok (cluesOf d (what.clue :: said)) := by
  have hl : 262143 ≤ largestYear := by decide
  have hyear : -262143 ≤ d.year ∧ d.year ≤ 262142 := ⟨d.valid.1, d.valid.2.1⟩
  have hiso := d.isoYear_range
  have hmonth := d.month_range
  have hday := d.day_range
  have hquarter := d.quarter_range
  have hordinal := d.ordinal_bounds
  have hlength := yearLength_bounds d.year
  have hsunday := d.weekFrom_le .sunday
  have hmonday := d.weekFrom_le .monday
  have hweek := d.isoWeek_bounds
  cases what with
  | weekdayFromSunday =>
    have hset := setWeekday_cluesOf d said
    rw [← d.weekday.ofMonday_fromSunday] at hset
    have hle := d.weekday.fromSunday_le
    simp only [DateClues.set, bind_eq_ok, bounded_eq_ok]
    refine ⟨_, ⟨?_, rfl⟩, hset⟩
    dsimp only [DateNumber.value]
    omega
  | weekdayFromMonday =>
    have hset := setWeekday_cluesOf d said
    rw [← d.weekday.ofMonday_fromMonday] at hset
    have hle := d.weekday.fromMonday_le
    simp only [DateClues.set, bind_eq_ok, bounded_eq_ok]
    refine ⟨(d.weekday.fromMonday + 1 : Nat), ⟨?_, rfl⟩, ?_⟩
    · dsimp only [DateNumber.value]
      omega
    · have hn : (((d.weekday.fromMonday + 1 : Nat) : Int) - 1).toNat = d.weekday.fromMonday := by
        omega
      rwa [hn]
  | _ =>
    simp only [DateClues.set, yearInWord, bind_eq_ok, pure_eq_ok, agree_eq_ok,
      bounded_eq_ok]
    refine ⟨_, ⟨?_, rfl⟩, _, ⟨?_, rfl⟩, ?_⟩
    · dsimp only [DateNumber.value]
      omega
    · exact (fits_told ..).mpr fun _ => rfl
    · simp [cluesOf, DateNumber.clue, DateNumber.value]

theorem fits_of_setWeekday {c c' : DateClues} {w : Weekday} {d : Date}
    (h : c.setWeekday w = .ok c') (hf : c'.Fits d) : c.Fits d ∧ w = d.weekday := by
  obtain ⟨hfit, rfl⟩ := DateClues.setWeekday_eq_ok.mp h
  obtain ⟨hday, hiso, hrest⟩ := hf
  rw [DateClues.fitsIsoWeek_iff, DateClues.fits_some] at hiso
  obtain ⟨hy, hw, rfl⟩ := hiso
  exact ⟨⟨hday, (c.fitsIsoWeek_iff d).mpr ⟨hy, hw, hfit⟩, hrest⟩, rfl⟩

/-- More clues stay sound and fit no further dates. -/
structure DateClues.Extends (c c' : DateClues) : Prop where
  sound : c.Sound → c'.Sound
  fits : ∀ d, c'.Fits d → c.Fits d

theorem DateClues.Extends.refl (c : DateClues) : c.Extends c := ⟨id, fun _ => id⟩

theorem DateClues.Extends.trans {a b c : DateClues} (h : a.Extends b) (h' : b.Extends c) :
    a.Extends c := ⟨h'.sound ∘ h.sound, fun d hf => h.fits d (h'.fits d hf)⟩

theorem extends_of_setWeekday {c c' : DateClues} {w : Weekday} (h : c.setWeekday w = .ok c') :
    c.Extends c' := by
  refine ⟨?_, fun d hf => (fits_of_setWeekday h hf).1⟩
  obtain ⟨-, rfl⟩ := DateClues.setWeekday_eq_ok.mp h
  exact fun hs => ⟨hs.year, hs.isoYear⟩

/-- A number is set to what the date has, if the clues fit the date afterwards. -/
theorem fits_of_set {c c' : DateClues} {n : Int} {what : DateNumber} {d : Date}
    (h : c.set n what = .ok c') (hf : c'.Fits d) :
    c.Fits d ∧ (n = what.value d ∨ what = .century ∧ 256 ≤ n) := by
  cases what with
  | weekdayFromSunday =>
    simp only [DateClues.set, bind_eq_ok, bounded_eq_ok] at h
    obtain ⟨_, ⟨hb, rfl⟩, hset⟩ := h
    obtain ⟨hfits, hw⟩ := fits_of_setWeekday hset hf
    refine ⟨hfits, Or.inl ?_⟩
    have hn := Weekday.fromSunday_ofMonday (show n.toNat < 7 by omega)
    rw [DateNumber.value, ← hw, show (n + 6).toNat = n.toNat + 6 by omega, hn]
    omega
  | weekdayFromMonday =>
    simp only [DateClues.set, bind_eq_ok, bounded_eq_ok] at h
    obtain ⟨_, ⟨hb, rfl⟩, hset⟩ := h
    obtain ⟨hfits, hw⟩ := fits_of_setWeekday hset hf
    refine ⟨hfits, Or.inl ?_⟩
    rw [DateNumber.value, ← hw, Weekday.fromMonday_ofMonday (by omega)]
    omega
  | _ =>
    simp only [DateClues.set, yearInWord, bind_eq_ok, pure_eq_ok, agree_eq_ok,
      bounded_eq_ok] at h
    obtain ⟨_, ⟨_, rfl⟩, _, ⟨hfit, rfl⟩, rfl⟩ := h
    simp only [DateClues.Fits, DateClues.fitsDay_iff, DateClues.fitsIsoWeek_iff,
      DateClues.fitsOrdinal_iff, DateClues.fitsQuarter, DateClues.fitsCentury_eq_true,
      DateClues.fits_some, DateNumber.value] at hf ⊢
    grind

theorem sound_of_set {c c' : DateClues} {n : Int} {what : DateNumber}
    (h : c.set n what = .ok c') (hs : c.Sound) : c'.Sound := by
  obtain ⟨⟨hq, hr⟩, hiso⟩ := hs
  cases what with
  | weekdayFromSunday | weekdayFromMonday =>
    simp only [DateClues.set, bind_eq_ok] at h
    obtain ⟨_, -, hset⟩ := h
    exact (extends_of_setWeekday hset).sound ⟨⟨hq, hr⟩, hiso⟩
  | _ =>
    simp only [DateClues.set, yearInWord, bind_eq_ok, pure_eq_ok, agree_eq_ok,
      bounded_eq_ok] at h
    obtain ⟨_, ⟨hb, rfl⟩, _, ⟨-, rfl⟩, rfl⟩ := h
    refine ⟨⟨?_, ?_⟩, ⟨by simp, ?_⟩⟩
    · grind
    · grind
    · have := hiso.2
      grind

theorem extends_of_set {c c' : DateClues} {n : Int} {what : DateNumber}
    (h : c.set n what = .ok c') : c.Extends c' :=
  ⟨sound_of_set h, fun _ hf => (fits_of_set h hf).1⟩

namespace DateItem

def clue? : DateItem → Option DateNumber
  | .number what _ => some what.clue
  | .name .shortMonth | .name .longMonth => some .month
  | .name .shortWeekday | .name .longWeekday => some .weekdayFromMonday
  | .literal _ | .blank _ | .timeOfDay => none

/-- Literal text has no blanks, and blanks are nothing else. -/
def Proper : DateItem → Prop
  | .literal text => text ≠ [] ∧ ∀ c ∈ text, Text.isBlank c = false
  | .blank text => ∀ c ∈ text, Text.isBlank c = true
  | .number _ _ | .name _ | .timeOfDay => True

instance : (item : DateItem) → Decidable item.Proper
  | .literal text =>
    decidable_of_iff (text ≠ [] ∧ (text.all fun c => !Text.isBlank c) = true) (by simp [Proper])
  | .blank text => decidable_of_iff (text.all Text.isBlank = true) (by simp [Proper])
  | .number _ _ | .name _ | .timeOfDay => .isTrue trivial

theorem proper_addLiteral {c : Char} (hc : Text.isBlank c = false) {items : List DateItem}
    (h : ∀ item ∈ items, item.Proper) : ∀ item ∈ addLiteral c items, item.Proper := by
  unfold addLiteral
  split
  · intro item hi
    rcases List.mem_cons.mp hi with rfl | hi
    · have hp := h _ List.mem_cons_self
      refine ⟨List.cons_ne_nil _ _, ?_⟩
      intro b hb
      rcases List.mem_cons.mp hb with rfl | hb
      · exact hc
      · exact hp.2 b hb
    · exact h item (List.mem_cons_of_mem _ hi)
  · intro item hi
    rcases List.mem_cons.mp hi with rfl | hi
    · exact ⟨List.cons_ne_nil _ _, by simpa using hc⟩
    · exact h item hi

theorem proper_addBlank {c : Char} (hc : Text.isBlank c = true) {items : List DateItem}
    (h : ∀ item ∈ items, item.Proper) : ∀ item ∈ addBlank c items, item.Proper := by
  unfold addBlank
  split
  · intro item hi
    rcases List.mem_cons.mp hi with rfl | hi
    · intro b hb
      rcases List.mem_cons.mp hb with rfl | hb
      · exact hc
      · exact h (.blank _) List.mem_cons_self b hb
    · exact h item (List.mem_cons_of_mem _ hi)
  · intro item hi
    rcases List.mem_cons.mp hi with rfl | hi
    · simpa [Proper] using hc
    · exact h item hi

theorem proper_ofSpecifier? {c : Char} {items : List DateItem} (h : ofSpecifier? c = some items) :
    ∀ item ∈ items, item.Proper := by
  unfold ofSpecifier? at h
  split at h
  · cases h
    simp [Proper]
  · unfold othersOf? at h
    split at h
    all_goals try (cases h; decide)
    split at h
    · cases h
      decide
    · cases h

theorem proper_ofText? {cs : List Char} {items : List DateItem} (h : ofText? cs = some items) :
    ∀ item ∈ items, item.Proper := by
  fun_induction ofText? cs generalizing items with
  | case1 =>
    cases h
    exact nofun
  | case2 => cases h
  | case3 c => exact proper_ofSpecifier? h
  | case4 c d rest hp ih =>
    simp only [Option.bind_eq_bind, Option.bind_eq_some_iff, Option.pure_def,
      Option.some.injEq] at h
    obtain ⟨first, hf, others, ho, rfl⟩ := h
    intro item hi
    rcases List.mem_append.mp hi with hi | hi
    · exact proper_ofSpecifier? hf item hi
    · exact ih ho item hi
  | case5 c d rest padding hp ih =>
    simp only [Option.bind_eq_bind, Option.bind_eq_some_iff, Option.pure_def,
      Option.some.injEq] at h
    obtain ⟨what, hf, others, ho, rfl⟩ := h
    intro item hi
    rcases List.mem_cons.mp hi with rfl | hi
    · trivial
    · exact ih ho item hi
  | case6 c rest h1 h2 h3 ih =>
    simp only [Option.bind_eq_bind, Option.bind_eq_some_iff, Option.pure_def,
      Option.some.injEq] at h
    obtain ⟨others, ho, rfl⟩ := h
    split
    · rename_i hc
      exact proper_addBlank hc (ih ho)
    · rename_i hc
      exact proper_addLiteral (by simpa using hc) (ih ho)

end DateItem
end PermitPolicy.Calendar
