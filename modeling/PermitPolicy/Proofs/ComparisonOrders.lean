import Mathlib.Logic.ExistsUnique
import PermitPolicy.Proofs.Membership
import PermitPolicy.Proofs.ReadBack

/-! The orders that operators compare by.  Numbers of all kinds stand in one order, which the
operators on numbers and `equal` tell together, and texts that read as dates stand in the order of
their days, however a day is written.  Anything else is not compared: the answer is no. -/

namespace PermitPolicy
open Json Calendar
set_option autoImplicit false

section
variable {test : Int → Int → Bool} {a b : Value}

theorem compareNumbers_of_not_numbers (h : a.isNumber = false ∨ b.isNumber = false) :
    compareNumbers test a b = false := by
  unfold compareNumbers
  rcases h with ha | hb
  · rw [Value.units?_eq_none ha]
  · rw [Value.units?_eq_none hb]
    cases a.units? <;> rfl

theorem compareNumbers_eq_true_iff : compareNumbers test a b = true ↔
    ∃ m n : Number, a = .number m ∧ b = .number n ∧ test m.units n.units = true := by
  constructor
  · intro h
    cases a with
    | number m =>
      cases b with
      | number n => exact ⟨m, n, rfl, rfl, h⟩
      | _ => cases h
    | _ => cases h
  · rintro ⟨m, n, rfl, rfl, h⟩
    exact h

theorem compareNumbers_swap (test : Int → Int → Bool) (a b : Value) :
    compareNumbers (fun x y => test y x) a b = compareNumbers test b a := by
  unfold compareNumbers
  cases a.units? <;> cases b.units? <;> rfl

end

theorem dateBefore_eq_true_iff {f : DateFormat} {a b : Value} : dateBefore f a b = true ↔
    ∃ day later, readDate? f a = some day ∧ readDate? f b = some later ∧
      day.dayNumber < later.dayNumber := by
  unfold dateBefore
  constructor
  · intro h
    split at h
    · rename_i day later ha hb
      exact ⟨day, later, ha, hb, Date.before_iff.mp h⟩
    · cases h
  · rintro ⟨day, later, ha, hb, hlt⟩
    rw [ha, hb]
    exact Date.before_iff.mpr hlt

namespace OperatorSet
variable (f : DateFormat) (a b : Value)

theorem holds_compareNumbers {name : String} {test : Int → Int → Bool}
    (h : (⟨name, Value.isNumber, compareNumbers test⟩ : Operator) ∈ builtin) :
    (standard f).holds name a b = compareNumbers test a b := by
  have hop : (standard f).holds name a b = (a.isNumber && compareNumbers test a b) :=
    holds_standard f a b h
  rw [hop]
  cases ha : a.isNumber with
  | false => exact (compareNumbers_of_not_numbers (Or.inl ha)).symm
  | true => rfl

theorem holds_lessThan :
    (standard f).holds "lessThan" a b = compareNumbers (fun x y => x < y) a b :=
  holds_compareNumbers f a b (by simp [builtin])

theorem holds_lessThanInclusive :
    (standard f).holds "lessThanInclusive" a b = compareNumbers (fun x y => x ≤ y) a b :=
  holds_compareNumbers f a b (by simp [builtin])

theorem holds_greaterThan :
    (standard f).holds "greaterThan" a b = compareNumbers (fun x y => y < x) a b :=
  holds_compareNumbers f a b (by simp [builtin])

theorem holds_greaterThanInclusive :
    (standard f).holds "greaterThanInclusive" a b = compareNumbers (fun x y => y ≤ x) a b :=
  holds_compareNumbers f a b (by simp [builtin])

theorem holds_dateLessThan : (standard f).holds "dateLessThan" a b = dateBefore f a b := by
  rw [holds_of_get? (get?_dateLessThan f)]
  simp only [Operator.holds, dateBefore]
  cases readDate? f a <;> rfl

theorem contains_comparison {name : String}
    (h : name ∈ "dateLessThan" :: builtin.map Operator.name) : (standard f).contains name := by
  rcases List.mem_cons.mp h with rfl | h
  · exact Table.contains_iff.mpr ⟨_, get?_dateLessThan f⟩
  · exact contains_standard f h

end OperatorSet

/-- One order of all numbers, as the operators of these names answer. -/
structure OrdersNumbers (holds : String → Value → Value → Bool) : Prop where
  lessThan : ∀ m n : Number, holds "lessThan" (.number m) (.number n) = decide (m.units < n.units)
  exactlyOne : ∀ m n : Number, ∃! name, name ∈ ["lessThan", "equal", "greaterThan"] ∧
    holds name (.number m) (.number n) = true
  lessThanInclusive : ∀ m n : Number, holds "lessThanInclusive" (.number m) (.number n) = true ↔
    holds "lessThan" (.number m) (.number n) = true ∨ holds "equal" (.number m) (.number n) = true
  greaterThanInclusive : ∀ m n : Number,
    holds "greaterThanInclusive" (.number m) (.number n) = true ↔
      holds "greaterThan" (.number m) (.number n) = true ∨
        holds "equal" (.number m) (.number n) = true
  trans : ∀ a b c, holds "lessThan" a b = true → holds "lessThan" b c = true →
    holds "lessThan" a c = true
  converse : ∀ a b, holds "greaterThan" a b = holds "lessThan" b a
  numbersOnly : ∀ name ∈ ["lessThan", "lessThanInclusive", "greaterThan", "greaterThanInclusive"],
    ∀ a b, a.isNumber = false ∨ b.isNumber = false → holds name a b = false

/-- The order of the days that values are read as, as an operator answers. -/
structure OrdersDays (day? : Value → Option Date) (before : Value → Value → Bool) : Prop where
  earlier : ∀ a b day later, day? a = some day → day? b = some later →
    (before a b = true ↔ day.dayNumber < later.dayNumber)
  irrefl : ∀ a, before a a = false
  asymm : ∀ a b, before a b = true → before b a = false
  trans : ∀ a b c, before a b = true → before b c = true → before a c = true
  readableOnly : ∀ a b, day? a = none ∨ day? b = none → before a b = false
  between : ∀ a b c, (day? b).isSome → before a c = true → before a b = true ∨ before b c = true

section
variable (f : DateFormat) (m n : Number)

/-- Which of three operators holds of two numbers. -/
theorem OperatorSet.holds_numbers_iff (name : String) :
    name ∈ ["lessThan", "equal", "greaterThan"] ∧
        (standard f).holds name (.number m) (.number n) = true ↔
      name = "lessThan" ∧ m.units < n.units ∨ name = "equal" ∧ m.units = n.units ∨
        name = "greaterThan" ∧ n.units < m.units := by
  have hless : (standard f).holds "lessThan" (.number m) (.number n) = true ↔
      m.units < n.units := by
    rw [holds_lessThan]
    exact decide_eq_true_iff
  have hequal : (standard f).holds "equal" (.number m) (.number n) = true ↔
      m.units = n.units := by
    rw [holds_equal]
    exact beq_iff_eq
  have hgreater : (standard f).holds "greaterThan" (.number m) (.number n) = true ↔
      n.units < m.units := by
    rw [holds_greaterThan]
    exact decide_eq_true_iff
  simp only [List.mem_cons, List.not_mem_nil, or_false]
  constructor
  · rintro ⟨rfl | rfl | rfl, h⟩
    · exact Or.inl ⟨rfl, hless.mp h⟩
    · exact Or.inr (Or.inl ⟨rfl, hequal.mp h⟩)
    · exact Or.inr (Or.inr ⟨rfl, hgreater.mp h⟩)
  · rintro (⟨rfl, h⟩ | ⟨rfl, h⟩ | ⟨rfl, h⟩)
    · exact ⟨Or.inl rfl, hless.mpr h⟩
    · exact ⟨Or.inr (Or.inl rfl), hequal.mpr h⟩
    · exact ⟨Or.inr (Or.inr rfl), hgreater.mpr h⟩

theorem existsUnique_holds : ∃! name, name ∈ ["lessThan", "equal", "greaterThan"] ∧
    (OperatorSet.standard f).holds name (.number m) (.number n) = true := by
  simp only [OperatorSet.holds_numbers_iff]
  rcases Int.lt_trichotomy m.units n.units with hlt | heq | hgt
  · refine ⟨"lessThan", Or.inl ⟨rfl, hlt⟩, ?_⟩
    rintro name (⟨hname, -⟩ | ⟨-, h⟩ | ⟨-, h⟩)
    · exact hname
    · omega
    · omega
  · refine ⟨"equal", Or.inr (Or.inl ⟨rfl, heq⟩), ?_⟩
    rintro name (⟨-, h⟩ | ⟨hname, -⟩ | ⟨-, h⟩)
    · omega
    · exact hname
    · omega
  · refine ⟨"greaterThan", Or.inr (Or.inr ⟨rfl, hgt⟩), ?_⟩
    rintro name (⟨-, h⟩ | ⟨-, h⟩ | ⟨hname, -⟩)
    · omega
    · omega
    · exact hname

end

theorem compareNumbers_trans {test : Int → Int → Bool}
    (htest : ∀ x y z, test x y = true → test y z = true → test x z = true) {a b c : Value}
    (hab : compareNumbers test a b = true) (hbc : compareNumbers test b c = true) :
    compareNumbers test a c = true := by
  obtain ⟨m, n, rfl, rfl, hmn⟩ := compareNumbers_eq_true_iff.mp hab
  obtain ⟨n', k, hn, rfl, hnk⟩ := compareNumbers_eq_true_iff.mp hbc
  obtain rfl := Value.number.inj hn
  exact htest _ _ _ hmn hnk

theorem orders_numbers (f : DateFormat) : OrdersNumbers (OperatorSet.standard f).holds where
  lessThan m n := OperatorSet.holds_lessThan f (.number m) (.number n)
  exactlyOne := existsUnique_holds f
  lessThanInclusive m n := by
    rw [OperatorSet.holds_lessThanInclusive, OperatorSet.holds_lessThan, OperatorSet.holds_equal]
    change decide (m.units ≤ n.units) = true ↔
      decide (m.units < n.units) = true ∨ (m.units == n.units) = true
    simp only [decide_eq_true_eq, beq_iff_eq]
    omega
  greaterThanInclusive m n := by
    rw [OperatorSet.holds_greaterThanInclusive, OperatorSet.holds_greaterThan,
      OperatorSet.holds_equal]
    change decide (n.units ≤ m.units) = true ↔
      decide (n.units < m.units) = true ∨ (m.units == n.units) = true
    simp only [decide_eq_true_eq, beq_iff_eq]
    omega
  trans a b c hab hbc := by
    rw [OperatorSet.holds_lessThan] at hab hbc ⊢
    refine compareNumbers_trans ?_ hab hbc
    intro x y z hxy hyz
    simp only [decide_eq_true_eq] at hxy hyz ⊢
    exact Int.lt_trans hxy hyz
  converse a b := by
    rw [OperatorSet.holds_greaterThan, OperatorSet.holds_lessThan]
    exact compareNumbers_swap _ a b
  numbersOnly name hname a b h := by
    simp only [List.mem_cons, List.not_mem_nil, or_false] at hname
    rcases hname with rfl | rfl | rfl | rfl
    · rw [OperatorSet.holds_lessThan, compareNumbers_of_not_numbers h]
    · rw [OperatorSet.holds_lessThanInclusive, compareNumbers_of_not_numbers h]
    · rw [OperatorSet.holds_greaterThan, compareNumbers_of_not_numbers h]
    · rw [OperatorSet.holds_greaterThanInclusive, compareNumbers_of_not_numbers h]

theorem orders_days (f : DateFormat) : OrdersDays (readDate? f) (dateBefore f) where
  earlier a b day later ha hb := by
    rw [dateBefore_eq_true_iff, ha, hb]
    simp
  irrefl a := by
    rw [Bool.eq_false_iff, ne_eq, dateBefore_eq_true_iff]
    rintro ⟨day, later, ha, ha', hlt⟩
    obtain rfl := Option.some.inj (ha.symm.trans ha')
    exact Int.lt_irrefl _ hlt
  asymm a b hab := by
    rw [Bool.eq_false_iff, ne_eq]
    intro hba
    obtain ⟨day, later, ha, hb, hlt⟩ := dateBefore_eq_true_iff.mp hab
    obtain ⟨later', day', hb', ha', hgt⟩ := dateBefore_eq_true_iff.mp hba
    obtain rfl := Option.some.inj (ha.symm.trans ha')
    obtain rfl := Option.some.inj (hb.symm.trans hb')
    exact Int.lt_irrefl _ (Int.lt_trans hlt hgt)
  trans a b c hab hbc := by
    obtain ⟨day, middle, ha, hb, hlt⟩ := dateBefore_eq_true_iff.mp hab
    obtain ⟨middle', later, hb', hc, hlt'⟩ := dateBefore_eq_true_iff.mp hbc
    obtain rfl := Option.some.inj (hb.symm.trans hb')
    exact dateBefore_eq_true_iff.mpr ⟨day, later, ha, hc, Int.lt_trans hlt hlt'⟩
  readableOnly a b h := by
    rw [Bool.eq_false_iff, ne_eq, dateBefore_eq_true_iff]
    rintro ⟨day, later, ha, hb, -⟩
    rcases h with h | h
    · exact nomatch h.symm.trans ha
    · exact nomatch h.symm.trans hb
  between a b c hb hac := by
    obtain ⟨middle, hmiddle⟩ := Option.isSome_iff_exists.mp hb
    obtain ⟨day, later, ha, hc, hlt⟩ := dateBefore_eq_true_iff.mp hac
    simp only [dateBefore_eq_true_iff]
    by_cases h : day.dayNumber < middle.dayNumber
    · exact Or.inl ⟨day, middle, ha, hmiddle, h⟩
    · exact Or.inr ⟨middle, later, hmiddle, hc, by omega⟩

/-- What an engine with the standard operators answers on the order of numbers and of dates: of two
numbers exactly one is less, equal or greater, the inclusive operators add equality, dates come in
the order of their days, and no other values are compared. -/
theorem numbers_and_dates_ordered (f : DateFormat) :
    let holds := (OperatorSet.standard f).holds
    (∀ e : Engine, e.operators = .standard f → ∀ facts leaf a b,
        leaf.operator ∈ "dateLessThan" :: OperatorSet.builtin.map Operator.name →
          e.factValue facts leaf.fact leaf.path = .ok a →
            e.operandValue facts leaf.operand = .ok b →
              e.compare facts leaf = .ok (holds leaf.operator a b)) ∧
      OrdersNumbers holds ∧ OrdersDays (readDate? f) (holds "dateLessThan") := by
  intro holds
  refine ⟨?_, orders_numbers f, ?_⟩
  · intro e he facts leaf a b hop hfact hvalue
    have hknown : e.operators.contains leaf.operator :=
      he ▸ OperatorSet.contains_comparison f hop
    rw [Engine.compare_eq_holds hknown hfact hvalue, he]
  · have hbefore : holds "dateLessThan" = dateBefore f :=
      funext₂ (OperatorSet.holds_dateLessThan f)
    rw [hbefore]
    exact orders_days f

/-- A whole number and the double nearest to it, and a day written in two ways. -/
theorem numbers_and_dates_ordered_two_ways :
    let e := Policy.standardEngine .standard
    let holds := (OperatorSet.standard .standard).holds
    let whole : Number := .int 9007199254740993
    let rounded : Number := .double ⟨false, twoPow 52, 1075, by decide⟩
    let facts : Facts := Table.empty.insert "weight" (.number whole)
    let leaf : Comparison := ⟨"weight", "lessThanInclusive", .literal (.number rounded), none⟩
    let short : Value := .string "2024-1-5"
    let long : Value := .string "2024-01-05"
    let next : Value := .string "2024-01-06"
    e.compare facts leaf = .ok true ∧ holds "lessThan" (.int 1) (.int 2) = true ∧
      holds "greaterThan" (.int 1) (.int 2) = false ∧
      holds "greaterThan" (.number whole) (.number rounded) = false ∧
      holds "lessThan" (.number whole) (.string "9") = false ∧
      holds "dateLessThan" short long = false ∧ holds "dateLessThan" long short = false ∧
      holds "dateLessThan" short next = true ∧ holds "dateLessThan" next long = false ∧
      holds "dateLessThan" short (.int 2025) = false := by
  intro e holds whole rounded facts leaf short long next
  obtain ⟨hcompare, hnumbers, hdays⟩ := numbers_and_dates_ordered .standard
  have hunits : whole.units = rounded.units := by decide +kernel
  have hnotLess : ∀ {m n : Number}, m.units = n.units →
      holds "lessThan" (.number m) (.number n) = false := by
    intro m n h
    refine (hnumbers.lessThan m n).trans (decide_eq_false ?_)
    rw [h]
    exact Int.lt_irrefl _
  have hequal : holds "equal" (.number whole) (.number rounded) = true :=
    (OperatorSet.holds_equal .standard _ _).trans (beq_iff_eq.mpr hunits)
  have hinclusive : holds "lessThanInclusive" (.number whole) (.number rounded) = true :=
    (hnumbers.lessThanInclusive whole rounded).mpr (Or.inr hequal)
  have hshort : readDate? .standard short = some ⟨2024, 1, 5, by decide⟩ := by decide
  have hlong : readDate? .standard long = some ⟨2024, 1, 5, by decide⟩ := by decide
  have hnext : readDate? .standard next = some ⟨2024, 1, 6, by decide⟩ := by decide
  have hafter : ∀ {a}, readDate? .standard a = some ⟨2024, 1, 5, by decide⟩ →
      holds "dateLessThan" a next = true :=
    fun ha => (hdays.earlier _ _ _ _ ha hnext).mpr (by decide)
  have hsame : ∀ {a b}, readDate? .standard a = some ⟨2024, 1, 5, by decide⟩ →
      readDate? .standard b = some ⟨2024, 1, 5, by decide⟩ →
        holds "dateLessThan" a b = false := by
    intro a b ha hb
    rw [Bool.eq_false_iff, ne_eq, hdays.earlier _ _ _ _ ha hb]
    exact Int.lt_irrefl _
  have hless : holds "lessThan" (.int 1) (.int 2) = true :=
    (hnumbers.lessThan (.int 1) (.int 2)).trans (by decide +kernel)
  have hgreater : holds "greaterThan" (.int 1) (.int 2) = false :=
    (hnumbers.converse _ _).trans
      ((hnumbers.lessThan (.int 2) (.int 1)).trans (by decide +kernel))
  refine ⟨?_, hless, hgreater, ?_, ?_, hsame hshort hlong, hsame hlong hshort, hafter hshort, ?_,
    ?_⟩
  · exact (hcompare e rfl facts leaf _ _ (by decide) rfl rfl).trans (congrArg _ hinclusive)
  · exact (hnumbers.converse _ _).trans (hnotLess hunits.symm)
  · exact hnumbers.numbersOnly "lessThan" (by simp) _ _ (Or.inr rfl)
  · exact hdays.asymm _ _ (hafter hlong)
  · exact hdays.readableOnly _ _ (Or.inr rfl)

end PermitPolicy
