import PermitPolicy.Calendar.Read
import PermitPolicy.Proofs.Trimming

/-! Numbers and names in a text.  What is written for a number is blanks, a sign if it is a year
outside four digits, and digits; it is read back whatever follows it, unless more digits follow
where the number has fewer than are read.  Names are told apart by their abbreviations. -/

namespace PermitPolicy
set_option autoImplicit false

namespace Calendar

/-- Where digits end: nothing follows, or something that is no digit. -/
def StopsDigits (rest : List Char) : Prop := ∀ c ∈ rest.head?, c.isDigit = false

theorem le_ofDigitChars (ds : List Char) (n : Nat) : n ≤ Nat.ofDigitChars 10 ds n := by
  rw [Nat.ofDigitChars_eq_ofDigitChars_zero]
  have : n ≤ 10 ^ ds.length * n := Nat.le_mul_of_pos_left n (Nat.pow_pos (by decide))
  omega

theorem readDigits_append {ds : List Char} (hd : ∀ c ∈ ds, c.isDigit = true) {n : Nat}
    (hb : Nat.ofDigitChars 10 ds n ≤ largestNumber) (more : Nat) (rest : List Char) :
    readDigits n (ds.length + more) (ds ++ rest) =
      readDigits (Nat.ofDigitChars 10 ds n) more rest := by
  induction ds generalizing n with
  | nil => simp
  | cons c ds ih =>
    have hc : c.isDigit = true := hd c List.mem_cons_self
    rw [Nat.ofDigitChars_cons, Nat.mul_comm 10 n] at hb ⊢
    have hm := Nat.le_trans (le_ofDigitChars ds _) hb
    rw [List.length_cons, Nat.add_right_comm]
    simp only [List.cons_append, readDigits, hc, if_true, hm]
    exact ih (fun b hb => hd b (List.mem_cons_of_mem _ hb)) hb

theorem readDigits_stop (n : Nat) {more : Nat} {rest : List Char}
    (h : more = 0 ∨ StopsDigits rest) : readDigits n more rest = .ok (n, rest) := by
  cases more with
  | zero => rfl
  | succ more =>
    have hs : StopsDigits rest := by simpa using h
    cases rest with
    | nil => rfl
    | cons c rest =>
      have hc : c.isDigit = false := hs c rfl
      simp [readDigits, hc]

/-- Digits only add to a number, and no more than their places. -/
theorem bounds_of_readDigits {n m width : Nat} {cs rest : List Char}
    (h : readDigits n width cs = .ok (m, rest)) : n ≤ m ∧ m < (n + 1) * tenPow width := by
  induction width generalizing n cs with
  | zero =>
    obtain ⟨rfl, rfl⟩ := Prod.mk.inj (Except.ok.inj h)
    have hpow : tenPow 0 = 1 := rfl
    rw [hpow]
    omega
  | succ width ih =>
    have hn : n < (n + 1) * tenPow (width + 1) := Nat.lt_of_lt_of_le (Nat.lt_succ_self n)
      (Nat.le_mul_of_pos_right _ (tenPow_pos _))
    cases cs with
    | nil =>
      obtain ⟨rfl, rfl⟩ := Prod.mk.inj (Except.ok.inj h)
      exact ⟨Nat.le_refl n, hn⟩
    | cons c cs =>
      by_cases hc : c.isDigit = true
      · have hdigit : c.toNat - '0'.toNat ≤ 9 := by
          have hu := Text.toNat_of_isDigit hc
          have h0 : '0'.toNat = 48 := rfl
          omega
        simp only [readDigits, hc, if_true] at h
        split at h
        · obtain ⟨hle, hlt⟩ := ih h
          refine ⟨by omega, Nat.lt_of_lt_of_le hlt ?_⟩
          rw [tenPow_succ, Nat.mul_comm (tenPow width), ← Nat.mul_assoc]
          exact Nat.mul_le_mul_right _ (by omega)
        · cases h
      · simp only [readDigits, hc] at h
        obtain ⟨rfl, rfl⟩ := Prod.mk.inj (Except.ok.inj h)
        exact ⟨Nat.le_refl n, hn⟩

/-- A number that runs on into a further digit is another one, but a zero before a zero. -/
theorem ne_of_readDigits {n m more : Nat} {rest left : List Char} (hmore : 0 < more)
    (hrest : ¬ StopsDigits rest) (hzero : n = 0 → rest.head? ≠ some '0')
    (h : readDigits n more rest = .ok (m, left)) : m ≠ n := by
  obtain ⟨more, rfl⟩ := Nat.exists_eq_add_one_of_ne_zero (Nat.pos_iff_ne_zero.mp hmore)
  cases rest with
  | nil => exact absurd (fun _ hc => nomatch hc) hrest
  | cons c rest =>
    by_cases hc : c.isDigit = true
    · simp only [readDigits, hc, if_true] at h
      split at h
      · have hle := (bounds_of_readDigits h).1
        by_cases hn : n = 0
        · have hne : c ≠ '0' := by simpa using hzero hn
          have hval : '0'.toNat ≠ c.toNat := fun he => hne (Char.toNat_inj.mp he).symm
          have hl := Text.toNat_of_isDigit hc
          have h0 : '0'.toNat = 48 := rfl
          omega
        · omega
      · cases h
    · refine absurd ?_ hrest
      rintro b hb
      obtain rfl : c = b := Option.some.inj hb
      simpa using hc

theorem readNumber_append {ds : List Char} (hne : ds ≠ []) (hd : ∀ c ∈ ds, c.isDigit = true)
    (hb : Nat.ofDigitChars 10 ds 0 ≤ largestNumber) (more : Nat) (rest : List Char) :
    readNumber (ds.length + more) (ds ++ rest) =
      readDigits (Nat.ofDigitChars 10 ds 0) more rest := by
  rw [← readDigits_append hd hb]
  obtain ⟨c, cs, rfl⟩ := List.exists_cons_of_ne_nil hne
  have hc : c.isDigit = true := hd c List.mem_cons_self
  simp [readNumber, hc]

theorem ofDigitChars_zeros (k n : Nat) :
    Nat.ofDigitChars 10 (List.replicate k '0' ++ Nat.toDigits 10 n) 0 = n := by
  rw [Nat.ofDigitChars_append, Nat.ofDigitChars_replicate_zero, Nat.mul_zero,
    Nat.ofDigitChars_ten_toDigits]

theorem isDigit_zeros {k n : Nat} {c : Char}
    (h : c ∈ List.replicate k '0' ++ Nat.toDigits 10 n) : c.isDigit = true := by
  rcases List.mem_append.mp h with h | h
  · rw [List.eq_of_mem_replicate h]
    rfl
  · exact Nat.isDigit_of_mem_toDigits (by decide) (by decide) h

/-- Blanks, a sign and zeros before the digits: the forms that filling up gives. -/
theorem fill_eq (padding : Padding) (width : Nat) (sign digits : List Char) :
    ∃ j k, padding.fill width sign digits =
        List.replicate j ' ' ++ (sign ++ (List.replicate k '0' ++ digits)) ∧
      (k = 0 ∨ sign.length + (k + digits.length) = width) := by
  cases padding with
  | none => exact ⟨0, 0, rfl, Or.inl rfl⟩
  | zeros =>
    refine ⟨0, width - (sign.length + digits.length), by simp [Padding.fill], ?_⟩
    omega
  | blanks => exact ⟨width - (sign.length + digits.length), 0, by simp [Padding.fill], Or.inl rfl⟩

theorem writeTwo_eq_fill (padding : Padding) {n : Nat} (h : n < 100) :
    padding.writeTwo n = padding.fill 2 [] (Nat.toDigits 10 n) := by
  have hall : ∀ n, n < 100 → ∀ p ∈ [Padding.none, .zeros, .blanks],
      p.writeTwo n = p.fill 2 [] (Nat.toDigits 10 n) := by decide
  apply hall n h
  cases padding <;> decide

/-- A number in a text as it is read: blanks, a sign if the number is a year, and digits. -/
inductive Numeral (what : DateNumber) : List Char → Int → Prop
  | plain {blanks digits : List Char} (hb : ∀ c ∈ blanks, Text.isBlank c = true)
      (hne : digits ≠ []) (hd : ∀ c ∈ digits, c.isDigit = true)
      (hfits : Nat.ofDigitChars 10 digits 0 ≤ largestNumber)
      (hw : digits.length ≤ what.width) :
      Numeral what (blanks ++ digits) (Nat.ofDigitChars 10 digits 0 : Nat)
  | signed {blanks digits : List Char} (negative : Bool) (hs : what.signed = true)
      (hb : ∀ c ∈ blanks, Text.isBlank c = true)
      (hne : digits ≠ []) (hd : ∀ c ∈ digits, c.isDigit = true)
      (hfits : Nat.ofDigitChars 10 digits 0 ≤ largestNumber) :
      Numeral what (blanks ++ ((if negative then '-' else '+') :: digits))
        (if negative then -(Nat.ofDigitChars 10 digits 0 : Int)
          else (Nat.ofDigitChars 10 digits 0 : Nat))

/-- A text has no sign, and all the digits that are read of a number. -/
def Full (what : DateNumber) (text : List Char) : Prop :=
  (Text.trimLeft text).length = what.width ∧ ∀ c ∈ Text.trimLeft text, c.isDigit = true

theorem trimLeft_blanks_digits {blanks digits : List Char}
    (hb : ∀ c ∈ blanks, Text.isBlank c = true) (hne : digits ≠ [])
    (hd : ∀ c ∈ digits, c.isDigit = true) (rest : List Char) :
    Text.trimLeft (blanks ++ digits ++ rest) = digits ++ rest := by
  obtain ⟨c, cs, rfl⟩ := List.exists_cons_of_ne_nil hne
  rw [List.append_assoc, Text.trimLeft_blanks hb]
  exact Text.trimLeft_of_not_blank (Text.isBlank_of_isDigit (hd c List.mem_cons_self)) _

theorem read_of_no_sign {what : DateNumber} {cs : List Char}
    (h : what.signed = false ∨ ∃ c ∈ (Text.trimLeft cs).head?, c.isDigit = true) :
    what.read cs =
      (readNumber what.width (Text.trimLeft cs)).map fun (n, rest) => ((n : Int), rest) := by
  have hmark : ∀ mark tail, mark.isDigit = false → what.signed = true →
      Text.trimLeft cs ≠ mark :: tail := by
    rintro mark tail hm hs ht
    rcases h with h | ⟨c, hc, hd⟩
    · rw [hs] at h
      cases h
    · rw [ht] at hc
      obtain rfl : mark = c := Option.some.inj hc
      rw [hm] at hd
      cases hd
  unfold DateNumber.read
  split
  · rename_i hs ht
    exact absurd ht (hmark _ _ rfl hs)
  · rename_i hs ht
    exact absurd ht (hmark _ _ rfl hs)
  · cases readNumber what.width (Text.trimLeft cs) <;> rfl

theorem read_numeral_append {what : DateNumber} {text : List Char} {n : Int}
    (h : Numeral what text n) (rest : List Char) :
    ∃ (size more : Nat) (negative : Bool), n = (if negative then -(size : Int) else size) ∧
      (more = 0 → Full what text ∨ rest = []) ∧ (Full what text → more = 0) ∧
      what.read (text ++ rest) = (readDigits size more rest).map fun (m, left) =>
        (if negative then -(m : Int) else m, left) := by
  cases h with
  | plain hb hne hd hfits hw =>
    rename_i blanks digits
    have htext := trimLeft_blanks_digits hb hne hd []
    rw [List.append_nil, List.append_nil] at htext
    refine ⟨_, what.width - digits.length, false, rfl, ?_, ?_, ?_⟩
    · intro hmore
      rw [Full, htext]
      exact Or.inl ⟨by omega, hd⟩
    · intro hfull
      rw [Full, htext] at hfull
      omega
    · have ht := trimLeft_blanks_digits hb hne hd rest
      have hfirst : ∃ c ∈ (digits ++ rest).head?, c.isDigit = true := by
        obtain ⟨c, cs, rfl⟩ := List.exists_cons_of_ne_nil hne
        exact ⟨c, rfl, hd c List.mem_cons_self⟩
      have hnumber := readNumber_append hne hd hfits (what.width - digits.length) rest
      rw [Nat.add_sub_of_le hw] at hnumber
      rw [← ht] at hfirst hnumber
      rw [read_of_no_sign (Or.inr hfirst), hnumber]
      rfl
  | signed negative hsign hb hne hd hfits =>
    rename_i blanks digits
    have hmark : Text.isBlank (if negative then '-' else '+') = false := by
      cases negative <;> rfl
    have ht : ∀ tail, Text.trimLeft (blanks ++ ((if negative then '-' else '+') :: digits) ++
        tail) = (if negative then '-' else '+') :: (digits ++ tail) := by
      intro tail
      rw [List.append_assoc, Text.trimLeft_blanks hb]
      exact Text.trimLeft_of_not_blank hmark _
    refine ⟨_, rest.length, negative, rfl, ?_, ?_, ?_⟩
    · exact fun hmore => Or.inr (List.length_eq_zero_iff.mp hmore)
    · intro hfull
      have htext := ht []
      rw [List.append_nil, List.append_nil] at htext
      rw [Full, htext] at hfull
      have hfirst := hfull.2 _ List.mem_cons_self
      cases negative <;> cases hfirst
    · have hr := readNumber_append hne hd hfits rest.length rest
      rw [← List.length_append] at hr
      unfold DateNumber.read
      rw [ht, hsign]
      cases negative with
      | true =>
        simp only [if_true, hr]
        cases readDigits (Nat.ofDigitChars 10 digits 0) rest.length rest <;> rfl
      | false =>
        simp only [Bool.false_eq_true, if_false, hr]
        cases readDigits (Nat.ofDigitChars 10 digits 0) rest.length rest <;> rfl

theorem read_numeral {what : DateNumber} {text rest : List Char} {n : Int}
    (h : Numeral what text n) (hs : Full what text ∨ StopsDigits rest) :
    what.read (text ++ rest) = .ok (n, rest) := by
  obtain ⟨size, more, negative, rfl, -, hfull, hread⟩ := read_numeral_append h rest
  rw [hread, readDigits_stop size (hs.imp_left hfull)]
  rfl

/-- A numeral that is not set off from the digits behind it is read as another number. -/
theorem ne_of_read_numeral {what : DateNumber} {text rest left : List Char} {n m : Int}
    (h : Numeral what text n) (hs : ¬ (Full what text ∨ StopsDigits rest))
    (hzero : n = 0 → rest.head? ≠ some '0') (hread : what.read (text ++ rest) = .ok (m, left)) :
    m ≠ n := by
  obtain ⟨size, more, negative, rfl, hmore, -, heq⟩ := read_numeral_append h rest
  rw [not_or] at hs
  have hpos : 0 < more := by
    apply Nat.pos_of_ne_zero
    intro hm
    rcases hmore hm with hf | rfl
    · exact hs.1 hf
    · exact hs.2 fun _ hc => nomatch hc
  rw [heq] at hread
  cases hdigits : readDigits size more rest with
  | error fault =>
    rw [hdigits] at hread
    cases hread
  | ok result =>
    obtain ⟨k, others⟩ := result
    rw [hdigits] at hread
    obtain ⟨rfl, -⟩ := Prod.mk.inj (Except.ok.inj hread)
    have hne := ne_of_readDigits hpos hs.2 (fun h0 => hzero (by simp [h0])) hdigits
    cases negative <;> simp <;> omega

theorem lt_of_read {what : DateNumber} (hs : what.signed = false) {cs rest : List Char} {n : Int}
    (h : what.read cs = .ok (n, rest)) : n < tenPow what.width := by
  rw [read_of_no_sign (Or.inl hs)] at h
  cases htrim : Text.trimLeft cs with
  | nil =>
    rw [htrim] at h
    cases h
  | cons c cs =>
    rw [htrim, readNumber] at h
    split at h
    · cases hdigits : readDigits 0 what.width (c :: cs) with
      | error fault =>
        rw [hdigits] at h
        cases h
      | ok result =>
        obtain ⟨k, others⟩ := result
        rw [hdigits] at h
        obtain ⟨rfl, -⟩ := Prod.mk.inj (Except.ok.inj h)
        have hlt := (bounds_of_readDigits hdigits).2
        rw [Nat.zero_add, Nat.one_mul] at hlt
        exact_mod_cast hlt
    · cases h

theorem lt_largestNumber {n : Nat} (h : n < 1000000000) : n ≤ largestNumber := by
  have : 1000000000 ≤ largestNumber := by decide
  omega

theorem numeral_fill (padding : Padding) {what : DateNumber} (width : Nat) {n : Nat}
    (hw : width ≤ what.width) (hn : n < tenPow what.width) (hpos : 0 < what.width)
    (hfits : n < 1000000000) :
    Numeral what (padding.fill width [] (Nat.toDigits 10 n)) n := by
  obtain ⟨j, k, htext, hk⟩ := fill_eq padding width [] (Nat.toDigits 10 n)
  have hlength := (Nat.length_toDigits_le_iff (b := 10) (by decide) hpos).mpr hn
  have hvalue := ofDigitChars_zeros k n
  have hplain : Numeral what (List.replicate j ' ' ++ (List.replicate k '0' ++ Nat.toDigits 10 n))
      (Nat.ofDigitChars 10 (List.replicate k '0' ++ Nat.toDigits 10 n) 0 : Nat) := by
    apply Numeral.plain
    · intro c hc
      rw [List.eq_of_mem_replicate hc]
      rfl
    · intro h
      exact Nat.toDigits_ne_nil (List.append_eq_nil_iff.mp h).2
    · intro c hc
      exact isDigit_zeros hc
    · rw [hvalue]
      exact lt_largestNumber hfits
    · rw [List.length_append, List.length_replicate]
      simp only [List.length_nil] at hk
      omega
  rw [hvalue] at hplain
  rw [htext]
  exact hplain

theorem numeral_writeYear (padding : Padding) {what : DateNumber} (hs : what.signed = true)
    (hw : what.width = 4) {year : Int} (hy : year.natAbs < 1000000000) :
    Numeral what (padding.writeYear year) year := by
  unfold Padding.writeYear
  by_cases h : 0 ≤ year ∧ year < 10000
  · have hn : (year.natAbs : Int) = year := by omega
    have hplain : Numeral what (padding.fill 4 [] (Nat.toDigits 10 year.natAbs)) year.natAbs := by
      apply numeral_fill
      · omega
      · have hpow : tenPow 4 = 10000 := rfl
        rw [hw]
        omega
      · omega
      · exact hy
    rw [hn] at hplain
    simpa only [if_pos h] using hplain
  · simp only [if_neg h]
    obtain ⟨j, k, htext, hk⟩ := fill_eq padding 5 [if year < 0 then '-' else '+']
      (Nat.toDigits 10 year.natAbs)
    have hvalue := ofDigitChars_zeros k year.natAbs
    have hblanks : ∀ c ∈ List.replicate j ' ', Text.isBlank c = true := by
      intro c hc
      rw [List.eq_of_mem_replicate hc]
      rfl
    have hne : List.replicate k '0' ++ Nat.toDigits 10 year.natAbs ≠ [] := by
      intro h
      exact Nat.toDigits_ne_nil (List.append_eq_nil_iff.mp h).2
    have hfits : Nat.ofDigitChars 10 (List.replicate k '0' ++ Nat.toDigits 10 year.natAbs) 0 ≤
        largestNumber := by
      rw [hvalue]
      exact lt_largestNumber hy
    have hsigned := Numeral.signed (decide (year < 0)) hs hblanks hne (fun _ => isDigit_zeros) hfits
    rw [hvalue] at hsigned
    rw [htext]
    by_cases hneg : year < 0
    · have hn : -(year.natAbs : Int) = year := by omega
      simpa only [hneg, decide_true, if_true, hn, List.singleton_append] using hsigned
    · have hn : (year.natAbs : Int) = year := by omega
      simpa only [hneg, decide_false, Bool.false_eq_true, if_false, hn, List.singleton_append]
        using hsigned

theorem dropLetters_append (start rest : List Char) :
    dropLetters start (start ++ rest) = some rest := by
  induction start with
  | nil => rfl
  | cons c start ih => simp [dropLetters, ih]

theorem dropLetters_append_eq_none {start text : List Char}
    (h : dropLetters start text = none) (hl : start.length ≤ text.length) (rest : List Char) :
    dropLetters start (text ++ rest) = none := by
  induction start generalizing text with
  | nil => cases h
  | cons x start ih =>
    cases text with
    | nil => simp at hl
    | cons c text =>
      simp only [List.cons_append, dropLetters] at h ⊢
      split
      · rename_i he
        rw [if_pos he] at h
        exact ih h (by simpa using hl)
      · rfl

/-- A written name is read, if no name listed before it has the same abbreviation. -/
theorem readName_append {α : Type} {names before after : List (α × List Char)} {a : α}
    {name : List Char} (hn : names = before ++ (a, name) :: after)
    (hb : ∀ b ∈ before, dropLetters (abbreviate b.2) (abbreviate name) = none ∧
      (abbreviate b.2).length ≤ (abbreviate name).length) (rest : List Char) :
    readName false (abbreviate name ++ rest) names = .ok (a, rest) ∧
      readName true (name ++ rest) names = .ok (a, rest) := by
  subst hn
  have hsplit : name ++ rest = abbreviate name ++ (name.drop 3 ++ rest) := by
    unfold abbreviate
    rw [← List.append_assoc, List.take_append_drop]
  rw [hsplit]
  induction before with
  | nil => simp [readName, dropLetters_append]
  | cons b before ih =>
    obtain ⟨hnone, hl⟩ := hb b List.mem_cons_self
    have hskip : ∀ long tail, readName long (abbreviate name ++ tail)
        (b :: before ++ (a, name) :: after) =
          readName long (abbreviate name ++ tail) (before ++ (a, name) :: after) := by
      intro long tail
      obtain ⟨b, other⟩ := b
      simp only [List.cons_append, readName,
        dropLetters_append_eq_none hnone hl tail]
    rw [hskip, hskip]
    exact ih fun c hc => hb c (List.mem_cons_of_mem _ hc)

theorem namedMonths_eq (month : Nat) (h : 1 ≤ month ∧ month ≤ 12) :
    namedMonths = namedMonths.take (month - 1) ++
      ((month : Int), monthName month) :: namedMonths.drop month := by
  have hall : ∀ m, m < 12 → namedMonths = namedMonths.take m ++
      (((m + 1 : Nat) : Int), monthName (m + 1)) :: namedMonths.drop (m + 1) := by decide
  have hm := hall (month - 1) (by omega)
  rwa [Nat.sub_add_cancel h.1] at hm

theorem read_month (month : Nat) (h : 1 ≤ month ∧ month ≤ 12) (rest : List Char) :
    readName false (abbreviate (monthName month) ++ rest) namedMonths = .ok ((month : Int), rest) ∧
      readName true (monthName month ++ rest) namedMonths = .ok ((month : Int), rest) := by
  have hall : ∀ m, m < 12 → ∀ b ∈ namedMonths.take m,
      dropLetters (abbreviate b.2) (abbreviate (monthName (m + 1))) = none ∧
        (abbreviate b.2).length ≤ (abbreviate (monthName (m + 1))).length := by decide
  have hm := hall (month - 1) (by omega)
  rw [Nat.sub_add_cancel h.1] at hm
  exact readName_append (namedMonths_eq month h) hm rest

theorem read_weekday (day : Weekday) (rest : List Char) :
    readName false (abbreviate day.name ++ rest) namedWeekdays = .ok (day, rest) ∧
      readName true (day.name ++ rest) namedWeekdays = .ok (day, rest) := by
  have hall : ∀ n, n < 7 → namedWeekdays = namedWeekdays.take n ++
      (Weekday.ofMonday n, (Weekday.ofMonday n).name) :: namedWeekdays.drop (n + 1) ∧
      ∀ b ∈ namedWeekdays.take n,
        dropLetters (abbreviate b.2) (abbreviate (Weekday.ofMonday n).name) = none ∧
          (abbreviate b.2).length ≤ (abbreviate (Weekday.ofMonday n).name).length := by decide
  have hd := hall day.fromMonday (by cases day <;> decide)
  rw [Weekday.ofMonday_fromMonday] at hd
  exact readName_append hd.1 hd.2 rest

end Calendar
end PermitPolicy
