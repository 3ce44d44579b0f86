import PermitPolicy.Proofs.DayNumbers

/-! What the clues to a date resolve to.  It is the one date that all clues fit, if there are
enough of them: a year and something that names a day of it, or a year of weeks with a week and a
weekday.  A year of the century without its century is one of the hundred years from 1970 on. -/

namespace PermitPolicy.Calendar
set_option autoImplicit false

namespace DateClues

/-- A year can be told from a full year, or from a year of the century, which by itself is one
of the years 1970 to 2069. -/
def TellsYear (year century ofCentury : Option Int) (y : Int) : Prop :=
  year.isSome ∨ (ofCentury.isSome ∧ (century.isSome ∨ (1970 ≤ y ∧ y ≤ 2069)))

/-- A century is not negative, and a year of the century is below a hundred. -/
def OfCentury (century ofCentury : Option Int) : Prop :=
  (∀ q ∈ century, 0 ≤ q) ∧ ∀ r ∈ ofCentury, 0 ≤ r ∧ r < 100

@[simp] theorem fits_none {α : Type} [DecidableEq α] (a : α) : fits none a = true := rfl

@[simp] theorem fits_some {α : Type} [DecidableEq α] (a b : α) :
    fits (some a) b = true ↔ a = b := by
  simp [fits]

theorem fitsCentury_iff {century ofCentury : Option Int} {y : Int} :
    fitsCentury century ofCentury y = true ↔
      (∀ q ∈ century, 0 ≤ y ∧ q = y / 100) ∧ ∀ r ∈ ofCentury, 0 ≤ y ∧ r = y % 100 := by
  unfold fitsCentury
  by_cases h : 0 ≤ y
  · cases century <;> cases ofCentury <;> simp [h]
  · cases century <;> cases ofCentury <;> simp [h]

theorem fitsCentury_eq_true {century ofCentury : Option Int} {y : Int} :
    fitsCentury century ofCentury y = true ↔
      (century.isSome ∨ ofCentury.isSome → 0 ≤ y) ∧ fits century (y / 100) = true ∧
        fits ofCentury (y % 100) = true := by
  unfold fitsCentury
  by_cases h : 0 ≤ y
  · simp [h]
  · cases century <;> cases ofCentury <;> simp [h]

theorem checkYear_eq_some_iff (z y : Int) (century ofCentury : Option Int) :
    (if z < 0 then .error .impossible
      else if century.getD (z / 100) = z / 100 ∧ ofCentury.getD (z % 100) = z % 100 then
        .ok (some z)
      else .error .impossible : Except DateFault (Option Int)) = .ok (some y) ↔
      z = y ∧ 0 ≤ y ∧ fitsCentury century ofCentury y = true := by
  rw [fitsCentury_iff]
  split
  · simp
    omega
  · split
    · rename_i h
      cases century <;> cases ofCentury <;> simp at h ⊢ <;> omega
    · rename_i h
      cases century <;> cases ofCentury <;> simp at h ⊢ <;> omega

/-- A full year is checked against its century and its place in it. -/
theorem resolveYear_some (z y : Int) (century ofCentury : Option Int) :
    resolveYear (some z) century ofCentury = .ok (some y) ↔
      z = y ∧ fitsCentury century ofCentury y = true := by
  have hcheck := checkYear_eq_some_iff z y century ofCentury
  cases century with
  | none =>
    cases ofCentury with
    | none => simp [resolveYear, fitsCentury_iff]
    | some r =>
      have hpos : fitsCentury none (some r) y = true → 0 ≤ y := fun h =>
        ((fitsCentury_iff.mp h).2 r rfl).1
      simp only [resolveYear]
      exact hcheck.trans (and_congr_right fun _ => and_iff_right_of_imp hpos)
  | some q =>
    have hpos : fitsCentury (some q) ofCentury y = true → 0 ≤ y := fun h =>
      ((fitsCentury_iff.mp h).1 q rfl).1
    simp only [resolveYear]
    exact hcheck.trans (and_congr_right fun _ => and_iff_right_of_imp hpos)

theorem resolveYear_none {century ofCentury : Option Int} (hc : OfCentury century ofCentury)
    {y : Int} (hy : y ≤ largestYear) :
    resolveYear none century ofCentury = .ok (some y) ↔
      fitsCentury century ofCentury y = true ∧ TellsYear none century ofCentury y := by
  obtain ⟨hq, hr⟩ := hc
  rw [fitsCentury_iff]
  cases ofCentury with
  | none => cases century <;> simp [resolveYear, TellsYear]
  | some r =>
    have hr := hr r rfl
    cases century with
    | none =>
      simp only [resolveYear, TellsYear]
      split <;> simp <;> omega
    | some q =>
      have hq := hq q rfl
      simp only [resolveYear, TellsYear]
      split <;> simp <;> omega

theorem le_largestYear_of_resolveYear {century ofCentury : Option Int}
    (hc : OfCentury century ofCentury) {y : Int}
    (h : resolveYear none century ofCentury = .ok (some y)) : y ≤ largestYear := by
  cases ofCentury with
  | none => cases century <;> cases h
  | some r =>
    cases century with
    | none =>
      have hr := hc.2 r rfl
      have hl : 2100 ≤ largestYear := by decide
      have hy : (if r < 70 then r + 2000 else r + 1900) = y := by
        simpa only [resolveYear, Except.ok.injEq, Option.some.injEq] using h
      split at hy <;> omega
    | some q =>
      simp only [resolveYear] at h
      split at h
      · cases h
        assumption
      · cases h

theorem of_resolveYear {year century ofCentury : Option Int}
    (hc : OfCentury century ofCentury) {y : Int}
    (h : resolveYear year century ofCentury = .ok (some y)) :
    (fits year y = true ∧ fitsCentury century ofCentury y = true) ∧
      TellsYear year century ofCentury y := by
  cases year with
  | some z =>
    obtain ⟨rfl, hf⟩ := (resolveYear_some z y century ofCentury).mp h
    exact ⟨⟨(fits_some z z).mpr rfl, hf⟩, Or.inl rfl⟩
  | none =>
    obtain ⟨hf, ht⟩ := (resolveYear_none hc (le_largestYear_of_resolveYear hc h)).mp h
    exact ⟨⟨rfl, hf⟩, ht⟩

theorem resolveYear_of_tells {year century ofCentury : Option Int}
    (hc : OfCentury century ofCentury) {y : Int} (hy : y ≤ largestYear)
    (hf : fits year y = true ∧ fitsCentury century ofCentury y = true)
    (ht : TellsYear year century ofCentury y) :
    resolveYear year century ofCentury = .ok (some y) := by
  cases year with
  | some z => exact (resolveYear_some z y century ofCentury).mpr ⟨(fits_some z y).mp hf.1, hf.2⟩
  | none => exact (resolveYear_none hc hy).mpr ⟨hf.2, ht⟩

theorem isSome_of_resolveYear {year century ofCentury z : Option Int}
    (h : resolveYear year century ofCentury = .ok z) :
    (z.isSome ↔ year.isSome ∨ ofCentury.isSome) ∧
      (century.isSome → year.isSome ∨ ofCentury.isSome) := by
  unfold resolveYear at h
  split at h
  · cases h
    simp
  · split at h
    · cases h
    · split at h
      · cases h
        simp
      · cases h
  · split at h
    · cases h
      simp
    · cases h
  · cases h
    simp
  · cases h

theorem exists_resolveYear {year century ofCentury : Option Int} {y : Int} (hy : y ≤ largestYear)
    (hf : fits year y = true ∧ fitsCentury century ofCentury y = true)
    (hq : century.isSome → year.isSome ∨ ofCentury.isSome) :
    ∃ z, resolveYear year century ofCentury = .ok z := by
  cases year with
  | some z =>
    obtain rfl := (fits_some z y).mp hf.1
    exact ⟨_, (resolveYear_some z z century ofCentury).mpr ⟨rfl, hf.2⟩⟩
  | none =>
    obtain ⟨hfq, hfr⟩ := fitsCentury_iff.mp hf.2
    cases ofCentury with
    | none =>
      cases century with
      | none => exact ⟨none, rfl⟩
      | some q => simp at hq
    | some r =>
      cases century with
      | none => exact ⟨_, rfl⟩
      | some q =>
        have hle : q * 100 + r ≤ largestYear := by
          have := hfq q rfl
          have := hfr r rfl
          omega
        exact ⟨_, if_pos hle⟩

variable (c : DateClues)

/-- Whether the date is all that a clue says of it. -/
def Fits (d : Date) : Prop :=
  c.fitsDay d = true ∧ c.fitsIsoWeek d = true ∧ c.fitsOrdinal d = true ∧ c.fitsQuarter d = true

/-- A day of a year is named, by month and day, by its place in the year or in a week. -/
def TellsDay : Prop :=
  (c.month.isSome ∧ c.day.isSome) ∨ c.ordinal.isSome ∨
    ((c.weekFromSunday.isSome ∨ c.weekFromMonday.isSome) ∧ c.weekday.isSome)

/-- The clues leave one date, by a day of a year or else by a week. -/
def Determines (d : Date) : Prop :=
  (c.century.isSome → c.year.isSome ∨ c.yearOfCentury.isSome) ∧
    (c.TellsDay ∧ TellsYear c.year c.century c.yearOfCentury d.year ∨
      ¬ (c.TellsDay ∧ (c.year.isSome ∨ c.yearOfCentury.isSome)) ∧
        c.isoWeek.isSome ∧ c.weekday.isSome ∧
          TellsYear c.isoYear none c.isoYearOfCentury d.isoYear)

/-- The clues to centuries are within their bounds. -/
structure Sound : Prop where
  year : OfCentury c.century c.yearOfCentury
  isoYear : OfCentury none c.isoYearOfCentury

theorem fitsDay_iff (d : Date) : c.fitsDay d = true ↔
    (fits c.year d.year = true ∧ fitsCentury c.century c.yearOfCentury d.year = true) ∧
      fits c.month d.month = true ∧ fits c.day d.day = true := by
  unfold fitsDay
  simp only [Bool.and_eq_true, and_assoc]

theorem fitsIsoWeek_iff (d : Date) : c.fitsIsoWeek d = true ↔
    (fits c.isoYear d.isoYear = true ∧
      fitsCentury none c.isoYearOfCentury d.isoYear = true) ∧
      fits c.isoWeek d.isoWeek = true ∧ fits c.weekday d.weekday = true := by
  unfold fitsIsoWeek
  simp only [Bool.and_eq_true, and_assoc]

theorem fitsOrdinal_iff (d : Date) : c.fitsOrdinal d = true ↔
    fits c.ordinal d.ordinal = true ∧
      fits c.weekFromSunday (d.weekFrom .sunday) = true ∧
        fits c.weekFromMonday (d.weekFrom .monday) = true := by
  unfold fitsOrdinal
  simp only [Bool.and_eq_true, and_assoc]

theorem confirm_eq_ok {d e : Date} {ok : Bool} :
    confirm d ok = .ok e ↔ d = e ∧ ok = true := by
  cases ok <;> simp [confirm]

/-- What the clues resolve to once the year and the year of weeks are known. -/
def resolveDay (year isoYear : Option Int) : Except DateFault Date := do
  match year, c.month, c.day with
  | some y, some m, some n =>
    let d ← orFault .outOfRange (Date.of? y m.toNat n.toNat)
    confirm d (c.fitsIsoWeek d && c.fitsOrdinal d && c.fitsQuarter d)
  | _, _, _ =>
    match year, c.ordinal with
    | some y, some n =>
      let d ← orFault .outOfRange (Date.ofOrdinal? y n.toNat)
      confirm d (c.fitsDay d && c.fitsIsoWeek d && c.fitsOrdinal d && c.fitsQuarter d)
    | _, _ =>
      match year, c.weekFromSunday, c.weekday with
      | some y, some w, some wd =>
        let d ← ofWeek y w wd .sunday
        confirm d (c.fitsDay d && c.fitsIsoWeek d && c.fitsOrdinal d && c.fitsQuarter d)
      | _, _, _ =>
        match year, c.weekFromMonday, c.weekday with
        | some y, some w, some wd =>
          let d ← ofWeek y w wd .monday
          confirm d (c.fitsDay d && c.fitsIsoWeek d && c.fitsOrdinal d && c.fitsQuarter d)
        | _, _, _ =>
          match isoYear, c.isoWeek, c.weekday with
          | some y, some w, some wd =>
            let d ← orFault .outOfRange (Date.ofIsoWeek? y w.toNat wd)
            confirm d (c.fitsDay d && c.fitsOrdinal d && c.fitsQuarter d)
          | _, _, _ => .error .notEnough

theorem resolve_eq :
    c.resolve = (do
      let year ← resolveYear c.year c.century c.yearOfCentury
      let isoYear ← resolveYear c.isoYear none c.isoYearOfCentury
      c.resolveDay year isoYear) := rfl

theorem bind_confirm_eq_ok {x : Except DateFault Date} {ok : Date → Bool} {d : Date} :
    (do let e ← x; confirm e (ok e)) = .ok d ↔ x = .ok d ∧ ok d = true := by
  cases x with
  | error fault => simp [bind, Except.bind]
  | ok e =>
    change confirm e (ok e) = .ok d ↔ _
    rw [confirm_eq_ok]
    constructor
    · rintro ⟨rfl, h⟩
      exact ⟨rfl, h⟩
    · rintro ⟨he, h⟩
      obtain rfl := Except.ok.inj he
      exact ⟨rfl, h⟩

section Ways
variable {c} {d : Date} {y m n w : Int} {wd : Weekday}

theorem fits_natCast {k : Nat} (hk : 1 ≤ k) : fits (some n) (k : Int) = true ↔ n.toNat = k := by
  rw [fits_some]
  omega

theorem of_month_day (hm : c.month = some m) (hn : c.day = some n) :
    orFault .outOfRange (Date.of? y m.toNat n.toNat) = .ok d ↔
      d.year = y ∧ fits c.month d.month = true ∧ fits c.day d.day = true := by
  rw [orFault_eq_ok, hm, hn, fits_natCast d.month_range.1, fits_natCast d.day_range.1]
  constructor
  · intro h
    obtain ⟨hy, hm, hd⟩ := Date.of?_eq_some h
    exact ⟨hy, hm.symm, hd.symm⟩
  · rintro ⟨rfl, hm, hd⟩
    rw [hm, hd]
    exact Date.of?_self d

theorem of_ordinal (hn : c.ordinal = some n) :
    orFault .outOfRange (Date.ofOrdinal? y n.toNat) = .ok d ↔
      d.year = y ∧ fits c.ordinal d.ordinal = true := by
  rw [orFault_eq_ok, hn, fits_natCast d.ordinal_bounds.1]
  constructor
  · intro h
    obtain ⟨hy, ho⟩ := Date.of_ofOrdinal? h
    exact ⟨hy, ho.symm⟩
  · rintro ⟨rfl, ho⟩
    rw [ho]
    exact d.ofOrdinal?_ordinal

theorem of_isoWeek (hw : c.isoWeek = some w) (hd : c.weekday = some wd) :
    orFault .outOfRange (Date.ofIsoWeek? y w.toNat wd) = .ok d ↔
      d.isoYear = y ∧ fits c.isoWeek d.isoWeek = true ∧ fits c.weekday d.weekday = true := by
  rw [orFault_eq_ok, hw, hd, fits_natCast d.isoWeek_bounds.1, fits_some]
  constructor
  · intro h
    obtain ⟨hy, hw, hd⟩ := Date.of_ofIsoWeek? h
    exact ⟨hy, hw.symm, hd.symm⟩
  · rintro ⟨rfl, hw, rfl⟩
    rw [hw]
    exact d.ofIsoWeek?_isoWeek

end Ways

theorem ofWeek_confirm {y w : Int} {wd start : Weekday} {d : Date}
    (hw : c.Fits d → w = d.weekFrom start) (hd : c.weekday = some wd) :
    ofWeek y w wd start = .ok d ∧ (c.fitsDay d && c.fitsIsoWeek d && c.fitsOrdinal d &&
      c.fitsQuarter d) = true ↔ d.year = y ∧ c.Fits d := by
  simp only [Bool.and_eq_true]
  constructor
  · rintro ⟨h, ⟨⟨hday, hi⟩, ho⟩, hq⟩
    exact ⟨year_of_ofWeek h, hday, hi, ho, hq⟩
  · rintro ⟨rfl, hf⟩
    have hwd := ((c.fitsIsoWeek_iff d).mp hf.2.1).2.2
    rw [hd, fits_some] at hwd
    refine ⟨?_, ⟨⟨hf.1, hf.2.1⟩, hf.2.2.1⟩, hf.2.2.2⟩
    rw [hw hf, hwd]
    exact ofWeek_weekFrom d start

theorem resolveDay_of_tellsDay {y : Int} (h : c.TellsDay)
    (hy : fits c.year y = true ∧ fitsCentury c.century c.yearOfCentury y = true)
    (isoYear : Option Int) (d : Date) :
    c.resolveDay (some y) isoYear = .ok d ↔ d.year = y ∧ c.Fits d := by
  unfold resolveDay
  split
  · rename_i hyear hm hn
    obtain rfl := Option.some.inj hyear
    rw [bind_confirm_eq_ok, of_month_day hm hn, Fits, fitsDay_iff]
    simp only [Bool.and_eq_true]
    constructor
    · rintro ⟨⟨rfl, hm, hn⟩, ⟨hi, ho⟩, hq⟩
      exact ⟨rfl, ⟨hy, hm, hn⟩, hi, ho, hq⟩
    · rintro ⟨hd, ⟨_, hm, hn⟩, hi, ho, hq⟩
      exact ⟨⟨hd, hm, hn⟩, ⟨hi, ho⟩, hq⟩
  · rename_i hno
    split
    · rename_i n hyear hn
      obtain rfl := Option.some.inj hyear
      rw [bind_confirm_eq_ok, of_ordinal hn, Fits]
      simp only [Bool.and_eq_true]
      constructor
      · rintro ⟨⟨rfl, _⟩, ⟨⟨hd, hi⟩, ho⟩, hq⟩
        exact ⟨rfl, hd, hi, ho, hq⟩
      · rintro ⟨hy, hd, hi, ho, hq⟩
        exact ⟨⟨hy, ((c.fitsOrdinal_iff d).mp ho).1⟩, ⟨⟨hd, hi⟩, ho⟩, hq⟩
    · rename_i hnordinal
      split
      · rename_i w wd hyear hw hd
        obtain rfl := Option.some.inj hyear
        rw [bind_confirm_eq_ok]
        apply c.ofWeek_confirm _ hd
        intro hf
        have hweek := ((c.fitsOrdinal_iff d).mp hf.2.2.1).2.1
        rwa [hw, fits_some] at hweek
      · rename_i hnsunday
        split
        · rename_i w wd hyear hw hd
          obtain rfl := Option.some.inj hyear
          rw [bind_confirm_eq_ok]
          apply c.ofWeek_confirm _ hd
          intro hf
          have hweek := ((c.fitsOrdinal_iff d).mp hf.2.2.1).2.2
          rwa [hw, fits_some] at hweek
        · rename_i hnmonday
          -- None of the ways to name a day applies, which some way does.
          exfalso
          rcases h with ⟨hm, hn⟩ | hn | ⟨hw | hw, hd⟩
          · obtain ⟨m, hm⟩ := Option.isSome_iff_exists.mp hm
            obtain ⟨n, hn⟩ := Option.isSome_iff_exists.mp hn
            exact hno y m n rfl hm hn
          · obtain ⟨n, hn⟩ := Option.isSome_iff_exists.mp hn
            exact hnordinal y n rfl hn
          · obtain ⟨w, hw⟩ := Option.isSome_iff_exists.mp hw
            obtain ⟨wd, hd⟩ := Option.isSome_iff_exists.mp hd
            exact hnsunday y w wd rfl hw hd
          · obtain ⟨w, hw⟩ := Option.isSome_iff_exists.mp hw
            obtain ⟨wd, hd⟩ := Option.isSome_iff_exists.mp hd
            exact hnmonday y w wd rfl hw hd

theorem resolveDay_of_not_tellsDay {year isoYear : Option Int}
    (h : ¬ (c.TellsDay ∧ year.isSome))
    (hi : ∀ y ∈ isoYear, fits c.isoYear y = true ∧ fitsCentury none c.isoYearOfCentury y = true)
    (d : Date) :
    c.resolveDay year isoYear = .ok d ↔
      (c.isoWeek.isSome ∧ c.weekday.isSome ∧ isoYear = some d.isoYear) ∧ c.Fits d := by
  unfold resolveDay
  split
  · rename_i hm hn
    exact absurd ⟨Or.inl ⟨by simp [hm], by simp [hn]⟩, rfl⟩ h
  · split
    · rename_i hn _
      exact absurd ⟨Or.inr (Or.inl (by simp [hn])), rfl⟩ h
    · split
      · rename_i hw hd _ _
        exact absurd ⟨Or.inr (Or.inr ⟨Or.inl (by simp [hw]), by simp [hd]⟩), rfl⟩ h
      · split
        · rename_i hw hd _ _ _
          exact absurd ⟨Or.inr (Or.inr ⟨Or.inr (by simp [hw]), by simp [hd]⟩), rfl⟩ h
        · split
          · rename_i y w wd hw hd
            rw [bind_confirm_eq_ok, of_isoWeek hw hd, Fits, fitsIsoWeek_iff]
            simp only [Bool.and_eq_true]
            constructor
            · rintro ⟨⟨rfl, hf, hf'⟩, ⟨hday, ho⟩, hq⟩
              exact ⟨⟨by simp [hw], by simp [hd], rfl⟩, hday, ⟨hi _ rfl, hf, hf'⟩, ho, hq⟩
            · rintro ⟨⟨_, _, hy⟩, hday, ⟨_, hf, hf'⟩, ho, hq⟩
              exact ⟨⟨(Option.some.inj hy).symm, hf, hf'⟩, ⟨hday, ho⟩, hq⟩
          · rename_i hno
            constructor
            · rintro ⟨⟩
            · rintro ⟨⟨hw, hd, hy⟩, _⟩
              obtain ⟨w, hw⟩ := Option.isSome_iff_exists.mp hw
              obtain ⟨wd, hd⟩ := Option.isSome_iff_exists.mp hd
              exact absurd hd (hno _ _ _ hy hw)

/-- The clues resolve to the one date that fits all of them, if they determine it. -/
theorem resolve_eq_ok_iff (hs : c.Sound) (d : Date) :
    c.resolve = .ok d ↔ c.Fits d ∧ c.Determines d := by
  rw [resolve_eq]
  constructor
  · intro h
    cases hyear : resolveYear c.year c.century c.yearOfCentury with
    | error fault => simp [hyear, bind, Except.bind] at h
    | ok year =>
      cases hiso : resolveYear c.isoYear none c.isoYearOfCentury with
      | error fault => simp [hyear, hiso, bind, Except.bind] at h
      | ok isoYear =>
        simp only [hyear, hiso, bind, Except.bind] at h
        obtain ⟨hsome, hcentury⟩ := isSome_of_resolveYear hyear
        by_cases hd : c.TellsDay ∧ year.isSome
        · obtain ⟨y, rfl⟩ := Option.isSome_iff_exists.mp hd.2
          obtain ⟨hy, ht⟩ := of_resolveYear hs.year hyear
          obtain ⟨rfl, hf⟩ := (c.resolveDay_of_tellsDay hd.1 hy isoYear d).mp h
          exact ⟨hf, hcentury, Or.inl ⟨hd.1, ht⟩⟩
        · have hi : ∀ y ∈ isoYear, fits c.isoYear y = true ∧
              fitsCentury none c.isoYearOfCentury y = true := by
            rintro y rfl
            exact (of_resolveYear hs.isoYear hiso).1
          obtain ⟨⟨hw, hwd, rfl⟩, hf⟩ := (c.resolveDay_of_not_tellsDay hd hi d).mp h
          rw [hsome] at hd
          exact ⟨hf, hcentury, Or.inr ⟨hd, hw, hwd, (of_resolveYear hs.isoYear hiso).2⟩⟩
  · rintro ⟨hf, hcentury, hdet⟩
    have hfy := ((c.fitsDay_iff d).mp hf.1).1
    have hfi := ((c.fitsIsoWeek_iff d).mp hf.2.1).1
    have hy : d.year ≤ largestYear := Int.le_trans d.valid.2.1 (by decide)
    have hiy : d.isoYear ≤ largestYear := by
      have hl : lastYear + 1 ≤ largestYear := by decide
      have hlast := d.valid.2.1
      have hrange := d.isoYear_range
      omega
    obtain ⟨isoYear, hiso⟩ := exists_resolveYear hiy hfi (by simp)
    rcases hdet with ⟨hd, ht⟩ | ⟨hd, hw, hwd, ht⟩
    · rw [resolveYear_of_tells hs.year hy hfy ht, hiso]
      exact (c.resolveDay_of_tellsDay hd hfy isoYear d).mpr ⟨rfl, hf⟩
    · obtain ⟨year, hyear⟩ := exists_resolveYear hy hfy hcentury
      obtain rfl : some d.isoYear = isoYear :=
        Except.ok.inj ((resolveYear_of_tells hs.isoYear hiy hfi ht).symm.trans hiso)
      rw [← (isSome_of_resolveYear hyear).1] at hd
      have hi : ∀ y ∈ some d.isoYear, fits c.isoYear y = true ∧
          fitsCentury none c.isoYearOfCentury y = true := by
        rintro y ⟨⟩
        exact hfi
      rw [hyear, hiso]
      exact (c.resolveDay_of_not_tellsDay hd hi d).mpr ⟨⟨hw, hwd, rfl⟩, hf⟩

end DateClues
end PermitPolicy.Calendar
