import PermitPolicy.Proofs.PolicyFacts
import PermitPolicy.Proofs.RuleDecision

/-! Dates in the standard format.  The texts that read as a date are the numerals of its year,
month and day with dashes between them, blanks in front of each numeral and around the text apart.
Every day of the range is written as such a text and comes back, so a start date is compared with
the day of validation itself. -/

namespace PermitPolicy
open Json Calendar
set_option autoImplicit false

namespace Calendar

theorem stopsDigits_nil : StopsDigits [] := fun _ hc => nomatch hc

theorem stopsDigits_cons {c : Char} (hc : c.isDigit = false) (rest : List Char) :
    StopsDigits (c :: rest) := by
  rintro _ ⟨⟩
  exact hc

theorem digits_of_readDigits {n m width : Nat} {cs rest : List Char} (hn : n ≤ largestNumber)
    (h : readDigits n width cs = .ok (m, rest)) :
    ∃ digits, cs = digits ++ rest ∧ (∀ c ∈ digits, c.isDigit = true) ∧ digits.length ≤ width ∧
      (digits.length = width ∨ StopsDigits rest) ∧ m = Nat.ofDigitChars 10 digits n ∧
        m ≤ largestNumber := by
  fun_induction readDigits n width cs with
  | case1 =>
    obtain ⟨rfl, rfl⟩ := Prod.mk.inj (Except.ok.inj h)
    exact ⟨[], rfl, nofun, Nat.zero_le _, Or.inl rfl, rfl, hn⟩
  | case2 =>
    obtain ⟨rfl, rfl⟩ := Prod.mk.inj (Except.ok.inj h)
    exact ⟨[], rfl, nofun, Nat.zero_le _, Or.inr stopsDigits_nil, rfl, hn⟩
  | case3 n width c cs hc next hle ih =>
    obtain ⟨digits, rfl, hd, hw, hall, rfl, hb⟩ := ih hle h
    refine ⟨c :: digits, rfl, ?_, Nat.succ_le_succ hw, hall.imp_left (congrArg _), ?_, hb⟩
    · exact List.forall_mem_cons.mpr ⟨hc, hd⟩
    · rw [Nat.ofDigitChars_cons, Nat.mul_comm]
  | case4 => cases h
  | case5 n width c cs hc =>
    obtain ⟨rfl, rfl⟩ := Prod.mk.inj (Except.ok.inj h)
    have hstop : StopsDigits (c :: cs) := stopsDigits_cons (by simpa using hc) cs
    exact ⟨[], rfl, nofun, Nat.zero_le _, Or.inr hstop, rfl, hn⟩

theorem digits_of_readNumber {m width : Nat} {cs rest : List Char} (hw : 0 < width)
    (h : readNumber width cs = .ok (m, rest)) :
    ∃ digits, cs = digits ++ rest ∧ digits ≠ [] ∧ (∀ c ∈ digits, c.isDigit = true) ∧
      digits.length ≤ width ∧ m = Nat.ofDigitChars 10 digits 0 ∧ m ≤ largestNumber := by
  cases cs with
  | nil => cases h
  | cons c cs =>
    by_cases hc : c.isDigit = true
    · simp only [readNumber, hc, if_true] at h
      obtain ⟨digits, heq, hd, hle, hall, hm, hb⟩ := digits_of_readDigits (Nat.zero_le _) h
      refine ⟨digits, heq, ?_, hd, hle, hm, hb⟩
      -- The first digit is read, since some are wanted.
      rintro rfl
      rcases hall with hzero | hstop
      · exact absurd hzero (Nat.ne_of_lt hw)
      · rw [List.nil_append] at heq
        rw [← heq] at hstop
        exact absurd hc (by simpa using hstop c rfl)
    · simp only [readNumber, hc] at h
      cases h

namespace DateNumber

theorem width_pos (what : DateNumber) : 0 < what.width := by
  cases what <;> decide

/-- A number is read with its sign and however many digits, or without a sign. -/
theorem of_read {what : DateNumber} {cs rest : List Char} {n : Int}
    (h : what.read cs = .ok (n, rest)) :
    (∃ (negative : Bool) (tail : List Char) (k : Nat), what.signed = true ∧
        Text.trimLeft cs = (if negative then '-' else '+') :: tail ∧
        readNumber tail.length tail = .ok (k, rest) ∧ n = if negative then -(k : Int) else k) ∨
      ∃ k : Nat, readNumber what.width (Text.trimLeft cs) = .ok (k, rest) ∧ n = k := by
  unfold read at h
  split at h
  · rename_i tail hs ht
    simp only [bind_eq_ok, pure_eq_ok] at h
    obtain ⟨⟨k, _⟩, hk, h⟩ := h
    obtain ⟨rfl, rfl⟩ := Prod.mk.inj h
    exact Or.inl ⟨true, tail, k, hs, ht, hk, rfl⟩
  · rename_i tail hs ht
    simp only [bind_eq_ok, pure_eq_ok] at h
    obtain ⟨⟨k, _⟩, hk, h⟩ := h
    obtain ⟨rfl, rfl⟩ := Prod.mk.inj h
    exact Or.inl ⟨false, tail, k, hs, ht, hk, rfl⟩
  · simp only [bind_eq_ok, pure_eq_ok] at h
    obtain ⟨⟨k, _⟩, hk, h⟩ := h
    obtain ⟨rfl, rfl⟩ := Prod.mk.inj h
    exact Or.inr ⟨k, hk, rfl⟩

end DateNumber

theorem numeral_of_read {what : DateNumber} {cs rest : List Char} {n : Int}
    (h : what.read cs = .ok (n, rest)) : ∃ text, cs = text ++ rest ∧ Numeral what text n := by
  have hblanks : ∀ c ∈ cs.takeWhile Text.isBlank, Text.isBlank c = true :=
    List.all_eq_true.mp List.all_takeWhile
  have hsplit : cs = cs.takeWhile Text.isBlank ++ Text.trimLeft cs :=
    List.takeWhile_append_dropWhile.symm
  rcases DateNumber.of_read h with ⟨negative, tail, k, hs, ht, hk, rfl⟩ | ⟨k, hk, rfl⟩
  · have hpos : 0 < tail.length := by
      cases tail with
      | nil => cases hk
      | cons => exact Nat.succ_pos _
    obtain ⟨digits, rfl, hne, hd, -, rfl, hb⟩ := digits_of_readNumber hpos hk
    refine ⟨_, ?_, Numeral.signed negative hs hblanks hne hd hb⟩
    rw [List.append_assoc, List.cons_append, ← ht]
    exact hsplit
  · obtain ⟨digits, ht, hne, hd, hw, rfl, hb⟩ := digits_of_readNumber what.width_pos hk
    refine ⟨_, ?_, Numeral.plain hblanks hne hd hb hw⟩
    rw [List.append_assoc, ← ht]
    exact hsplit

namespace DateItem
variable {d : Date} {items : List DateItem} {c c' : DateClues}

theorem readLiteral_eq_ok {text cs rest : List Char} :
    readLiteral text cs = .ok rest ↔ cs = text ++ rest := by
  constructor
  · intro h
    unfold readLiteral at h
    split at h
    · cases h
    · split at h
      · rename_i hp
        rw [← Except.ok.inj h]
        exact (List.prefix_iff_eq_append.mp (List.isPrefixOf_iff_prefix.mp hp)).symm
      · cases h
  · rintro rfl
    exact readLiteral_append text rest

theorem readAll_literal_eq_ok {text cs : List Char} :
    readAll (.literal text :: items) c cs = .ok c' ↔
      ∃ rest, cs = text ++ rest ∧ readAll items c rest = .ok c' := by
  simp only [readAll, read, bind_eq_ok, pure_eq_ok, readLiteral_eq_ok]
  constructor
  · rintro ⟨_, ⟨rest, rfl, rfl⟩, h⟩
    exact ⟨rest, rfl, h⟩
  · rintro ⟨rest, rfl, h⟩
    exact ⟨_, ⟨rest, rfl, rfl⟩, h⟩

/-- A number that was read on the way to clues that fit a date was a numeral of the date's. -/
theorem numeral_of_readAll {what : DateNumber} {padding : Padding} {cs : List Char}
    (h : readAll (.number what padding :: items) c cs = .ok c') (hf : c'.Fits d)
    (hw : what ≠ .century) :
    ∃ text rest next, cs = text ++ rest ∧ Numeral what text (what.value d) ∧
      readAll items next rest = .ok c' := by
  simp only [readAll, read, bind_eq_ok, pure_eq_ok] at h
  obtain ⟨_, ⟨⟨n, rest⟩, hread, next, hset, rfl⟩, hrest⟩ := h
  obtain ⟨text, rfl, hnumeral⟩ := numeral_of_read hread
  have hvalue := (fits_of_set hset ((extends_of_readAll items hrest).fits d hf)).2
  obtain rfl := hvalue.resolve_right fun hc => hw hc.1
  exact ⟨text, rest, next, rfl, hnumeral, hrest⟩

theorem readAll_numeral {what : DateNumber} {text rest : List Char}
    (h : Numeral what text (what.value d)) (hs : StopsDigits rest) (padding : Padding)
    (said : List DateNumber) :
    readAll (.number what padding :: items) (cluesOf d said) (text ++ rest) =
      readAll items (cluesOf d (what.clue :: said)) rest := by
  apply readAll_cons
  simp only [read, bind_eq_ok, pure_eq_ok]
  exact ⟨_, read_numeral h (Or.inr hs), _, set_cluesOf d said what, rfl⟩

end DateItem

/-- The numerals of a date's year, month and day with dashes between them. -/
def Dashed (text : List Char) (d : Date) : Prop :=
  ∃ year month day, text = year ++ '-' :: (month ++ '-' :: day) ∧
    Numeral .year year d.year ∧ Numeral .month month d.month ∧ Numeral .day day d.day

namespace DateFormat
open DateItem

theorem tells_of_year_month_day (d : Date) {said : List DateNumber}
    (h : [DateNumber.year, .month, .day] ⊆ said) (hs : said ⊆ [DateNumber.year, .month, .day]) :
    Tells d said := by
  have hno : ∀ what, what ∉ [DateNumber.year, .month, .day] → what ∉ said :=
    fun what hw hm => hw (hs hm)
  refine ⟨?_, ?_, ?_, Or.inl ⟨Or.inl ⟨h (by decide), h (by decide)⟩, Or.inl (h (by decide))⟩⟩
  · exact fun hc => absurd hc (hno _ (by decide))
  · exact fun hc => absurd hc (hno _ (by decide))
  · exact fun hc => absurd hc (hno _ (by decide))

/-- The texts that read as a date in the standard format. -/
theorem read?_standard_iff {text : String} {d : Date} :
    standard.read? text = some d ↔ Dashed (Text.trimChars text.toList) d := by
  rw [read?_eq_some_iff, readOrFault, bind_eq_ok]
  generalize Text.trimChars text.toList = cs
  constructor
  · rintro ⟨c, hread, hresolve⟩
    have hsound := (extends_of_readAll standard.items hread).sound (sound_cluesOf d [])
    have hfits := ((c.resolve_eq_ok_iff hsound d).mp hresolve).1
    obtain ⟨year, _, _, rfl, hyear, hafterYear⟩ := numeral_of_readAll hread hfits (by decide)
    obtain ⟨_, rfl, hfromMonth⟩ := readAll_literal_eq_ok.mp hafterYear
    obtain ⟨month, _, _, rfl, hmonth, hafterMonth⟩ :=
      numeral_of_readAll hfromMonth hfits (by decide)
    obtain ⟨_, rfl, hfromDay⟩ := readAll_literal_eq_ok.mp hafterMonth
    obtain ⟨day, rest, _, rfl, hday, hend⟩ := numeral_of_readAll hfromDay hfits (by decide)
    cases rest with
    | nil => exact ⟨year, month, day, by simp, hyear, hmonth, hday⟩
    | cons => cases hend
  · rintro ⟨year, month, day, rfl, hyear, hmonth, hday⟩
    refine ⟨cluesOf d [.day, .month, .year], ?_, ?_⟩
    · change readAll standard.items (cluesOf d []) _ = _
      unfold standard
      rw [readAll_numeral hyear (stopsDigits_cons rfl _)]
      refine readAll_literal_eq_ok.mpr ⟨month ++ '-' :: day, rfl, ?_⟩
      rw [readAll_numeral hmonth (stopsDigits_cons rfl _)]
      refine readAll_literal_eq_ok.mpr ⟨day, rfl, ?_⟩
      rw [← List.append_nil day, readAll_numeral hday stopsDigits_nil]
      rfl
    · rw [DateClues.resolve_eq_ok_iff _ (sound_cluesOf d _)]
      exact ((tells_iff d _).mp (tells_of_year_month_day d (by decide) (by decide))).2

theorem read?_write_standard (d : Date) : standard.read? (standard.write d) = some d := by
  have hset : SetOff d standard.items :=
    ⟨Or.inr (stopsDigits_cons rfl _), Or.inr (stopsDigits_cons rfl _), Or.inr stopsDigits_nil,
      trivial⟩
  have htells : Tells d standard.clues := tells_of_year_month_day d (by decide) (by decide)
  exact (standard.read?_write_iff d (zerosEnd_of_setOff hset)).mpr ⟨hset, htells⟩

end DateFormat

end Calendar

namespace Policy
variable {p : Policy} {d : Value}

def startDate : String := "permitData.startDate"

def startsInPast : Comparison :=
  { fact := startDate, operator := "dateLessThan", operand := .fact ⟨Facts.validationDate, none⟩ }

theorem compare_startsInPast {start : Value}
    (hback : p.dateFormat.read? (p.dateFormat.write p.today) = some p.today)
    (hstart : (p.documentFacts d).get? startDate = some start) :
    (standardEngine p.dateFormat).compare (p.documentFacts d) startsInPast =
      .ok ((readDate? p.dateFormat start).any fun day => day.before p.today) := by
  have hvalue : readDate? p.dateFormat (.string (p.dateFormat.write p.today)) = some p.today :=
    hback
  have hcompare := Engine.compare_of_values (e := standardEngine p.dateFormat) (c := startsInPast)
    (get?_dateLessThan p.dateFormat) (Engine.factValue_of_get? hstart)
    (Engine.factValue_of_get? (p.get?_validationDate d))
  rw [hcompare]
  simp only [Operator.holds, dateBefore, hvalue]
  cases readDate? p.dateFormat start <;> rfl

theorem readDate?_standard_any {start : Value} {today : Date} :
    ((readDate? .standard start).any fun day => day.before today) = true ↔
      ∃ text day, start = .string text ∧ Dashed (Text.trimChars text.toList) day ∧
        day.dayNumber < today.dayNumber := by
  simp only [Option.any_eq_true, readDate?, Option.bind_eq_some_iff, Value.string?_eq_some_iff,
    DateFormat.read?_standard_iff, Date.before_iff]
  constructor
  · rintro ⟨day, ⟨text, hs, hread⟩, hlt⟩
    exact ⟨text, day, hs, hread, hlt⟩
  · rintro ⟨text, day, hs, hread, hlt⟩
    exact ⟨day, ⟨text, hs, hread⟩, hlt⟩

/-- The comparison of a start date with the day of validation is decided, and true of the texts of
earlier days, whatever the day of validation is. -/
theorem past_start_date_fires (p : Policy) (hs : p.choice = .standard)
    (hf : p.dateFormat = .standard) (d : Value) (hd : d.Canonical) :
    ∃ start past, (p.documentFacts d).get? startDate = some start ∧
      (standardEngine p.dateFormat).compare (p.documentFacts d) startsInPast = .ok past ∧
      (past = true ↔ ∃ text day, start = .string text ∧
        Dashed (Text.trimChars text.toList) day ∧ day.dayNumber < p.today.dayNumber) ∧
      ∀ event : Event, p.evaluator.evaluate (p.documentFacts d)
        [[{ conditions := .comparison startsInPast, event }]] =
          ⟨if past then [event] else [], []⟩ := by
  obtain ⟨start, hstart⟩ : ∃ start, (p.documentFacts d).get? startDate = some start :=
    p.exists_fieldFact hd (by decide)
  have hcompare := compare_startsInPast (by rw [hf]; exact DateFormat.read?_write_standard _) hstart
  refine ⟨start, _, hstart, hcompare, ?_, ?_⟩
  · rw [hf]
    exact readDate?_standard_any
  · intro event
    rw [evaluator_standard hs]
    refine (Engine.evaluate_singleton _ _ _).trans ?_
    rw [Engine.runRule, Engine.check, hcompare]
    cases (readDate? p.dateFormat start).any fun day => day.before p.today <;> rfl

/-- A day in the year 12345, and an earlier start date with blanks around it and no zeros. -/
theorem past_start_date_fires_five_digits :
    let p : Policy := { definition := { version := "1" }, today := ⟨12345, 1, 1, by decide⟩ }
    let d : Value := .object [("permitData", .object [("startDate", .string " 9999-1-31 ")])]
    p.choice = .standard ∧ p.dateFormat = .standard ∧ d.Canonical ∧
      (p.documentFacts d).get? Facts.validationDate = some (.string "+12345-01-01") ∧
      (standardEngine .standard).compare (p.documentFacts d) startsInPast = .ok true := by
  intro p d
  have hd : d.Canonical := by decide
  obtain ⟨start, past, hstart, hcompare, hiff, -⟩ := past_start_date_fires p rfl rfl d hd
  have hpath : ["permitData", "startDate"] ∈ Application.fieldPaths := by decide
  have hfact : (p.documentFacts d).get? startDate = some (.string " 9999-1-31 ") :=
    (p.get?_fieldFact d hd hpath).trans (by decide)
  obtain rfl := Option.some.inj (hstart.symm.trans hfact)
  have hpast : past = true := by
    refine hiff.mpr ⟨_, ⟨9999, 1, 31, by decide⟩, rfl, ?_, by decide⟩
    exact DateFormat.read?_standard_iff.mp (by decide)
  refine ⟨rfl, rfl, hd, ?_, hpast ▸ hcompare⟩
  have hwrite : p.dateFormat.write p.today = "+12345-01-01" := by decide
  rw [p.get?_validationDate d, hwrite]

end Policy
end PermitPolicy
