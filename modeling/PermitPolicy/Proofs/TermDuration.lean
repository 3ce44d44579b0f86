import PermitPolicy.Proofs.PolicyFacts
import PermitPolicy.Proofs.RuleDecision

/-! Durations of permits.  A permit lasts a step of thirty days short of a year, or its permit year.
Two `null`s are equal values, so a permit without a duration is let through as well where nothing is
known of its permit year. -/

namespace PermitPolicy
open Json Calendar
set_option autoImplicit false

/-- A number that is equal to a whole number, as doubles. -/
def Json.Value.Amounts (v : Value) (n : Int) : Prop :=
  ∃ number, v = .number number ∧ number.units = (Number.int n).units

theorem equalValues_int (v : Value) (n : Int) : equalValues v (.int n) = true ↔ v.Amounts n := by
  unfold equalValues Value.Amounts
  cases v with
  | number number => simp [Value.units?, Value.int]
  | _ => simp [Value.units?, Value.int, Value.same]

theorem equalValues_null (v : Value) : equalValues v .null = true ↔ v = .null := by
  unfold equalValues
  cases v <;> simp [Value.units?, Value.same]

theorem isNoElement_ints (v : Value) (ns : List Int) :
    isNoElement v (.array (ns.map Value.int)) = false ↔ ∃ n ∈ ns, v.Amounts n := by
  simp [isNoElement, equalValues_int]

namespace Policy
open Facts

def permitDuration : String := "permitData.permitDuration"

def termLengths : List Int := [30, 60, 90, 120, 150, 180, 210, 240, 270, 300, 330]

def noTermLength : Comparison :=
  { fact := permitDuration
    operator := "notIn"
    operand := .literal (.array (termLengths.map Value.int)) }

def notPermitYear : Comparison :=
  { fact := permitDuration, operator := "notEqual", operand := .fact ⟨daysInPermitYear, none⟩ }

def termDuration : Rule where
  name := some "term-duration"
  conditions := .all [.comparison noTermLength, .comparison notPermitYear]
  event :=
    { kind := "violation"
      params := some (.object
        [("code", .string "field-validation-error"),
          ("fieldReference", .string permitDuration),
          ("message", .string "Duration must be in 30 day increments or a full calendar year")]) }

/-- The document of the rule. -/
example :
    let duration : Value := .string "permitData.permitDuration"
    Rule.decode (.object
      [("conditions", .object
          [("all", .array
            [.object
              [("fact", duration), ("operator", .string "notIn"),
                ("value", .array ([30, 60, 90, 120, 150, 180, 210, 240, 270, 300, 330].map
                  Value.int))],
              .object
                [("fact", duration), ("operator", .string "notEqual"),
                  ("value", .object [("fact", .string "daysInPermitYear")])]])]),
        ("event", .object
          [("params", .object
            [("code", .string "field-validation-error"), ("fieldReference", duration),
              ("message",
                .string "Duration must be in 30 day increments or a full calendar year")]),
            ("type", .string "violation")]),
        ("name", .string "term-duration")]) = .ok termDuration := rfl

/-- The days of the permit year of a start date that reads as a day in the format. -/
def PermitYear (format : DateFormat) (start : Option Value) (days : Int) : Prop :=
  ∃ text day, start = some (.string text) ∧ format.read? text = some day ∧
    daysInPermitYear? day = some days

/-- The durations that the rule lets through. -/
def TermLength (format : DateFormat) (start : Option Value) (duration : Value) : Prop :=
  (∃ n ∈ termLengths, duration.Amounts n) ∨
    (∃ days, PermitYear format start days ∧ duration.Amounts days) ∨
      (duration = .null ∧ ∀ days, ¬ PermitYear format start days)

variable {format : DateFormat} {start : Option Value} {facts : Facts} {duration : Value}

theorem permitYear_iff {days : Int} : PermitYear format start days ↔
    (start.bind (readDate? format)).bind daysInPermitYear? = some days := by
  simp only [PermitYear, readDate?, Option.bind_eq_some_iff, Value.string?_eq_some_iff]
  constructor
  · rintro ⟨text, day, hs, hread, hdays⟩
    exact ⟨day, ⟨_, hs, text, rfl, hread⟩, hdays⟩
  · rintro ⟨day, ⟨_, hs, text, rfl, hread⟩, hdays⟩
    exact ⟨text, day, hs, hread, hdays⟩

theorem equalValues_permitYearFact : equalValues duration (permitYearFact format start) = true ↔
    (∃ days, PermitYear format start days ∧ duration.Amounts days) ∨
      (duration = .null ∧ ∀ days, ¬ PermitYear format start days) := by
  simp only [permitYear_iff, permitYearFact]
  cases (start.bind (readDate? format)).bind daysInPermitYear? with
  | none => simp [Value.ofOption, equalValues_null]
  | some days => simp [Value.ofOption, equalValues_int]

theorem get?_notIn (f : DateFormat) : (OperatorSet.standard f).get? "notIn" =
    some ⟨"notIn", OperatorSet.anyValue, isNoElement⟩ :=
  OperatorSet.get?_standard (by simp [OperatorSet.builtin])

theorem get?_notEqual (f : DateFormat) : (OperatorSet.standard f).get? "notEqual" =
    some ⟨"notEqual", OperatorSet.anyValue, fun a b => !equalValues a b⟩ :=
  OperatorSet.get?_standard (by simp [OperatorSet.builtin])

theorem runRule_termDuration (hduration : facts.get? permitDuration = some duration)
    (hyear : facts.get? daysInPermitYear = some (permitYearFact format start)) :
    ∃ fires, (standardEngine format).runRule facts termDuration = .ok fires ∧
      (fires = false ↔ TermLength format start duration) := by
  have hterm := Engine.compare_of_values (e := standardEngine format) (c := noTermLength)
    (get?_notIn format) (Engine.factValue_of_get? hduration) rfl
  have hpermitYear := Engine.compare_of_values (e := standardEngine format) (c := notPermitYear)
    (get?_notEqual format) (Engine.factValue_of_get? hduration) (Engine.factValue_of_get? hyear)
  refine ⟨isNoElement duration (.array (termLengths.map Value.int)) &&
    !equalValues duration (permitYearFact format start), ?_, ?_⟩
  · simp only [Engine.runRule, termDuration, Engine.check, Engine.checkAll, hterm, hpermitYear]
    simp only [Operator.holds, OperatorSet.anyValue, Bool.true_and]
    cases isNoElement duration (.array (termLengths.map Value.int)) <;>
      cases equalValues duration (permitYearFact format start) <;> rfl
  · rw [Bool.and_eq_false_iff, Bool.not_eq_false', isNoElement_ints, equalValues_permitYearFact]
    rfl

/-- A permit type with the rule has every application reported whose duration is neither a term
nor the permit year of a start date that reads as a day, but one without a duration where there is
no permit year. -/
theorem term_duration_fires (p : Policy) (hs : p.choice = .standard) (d : Value)
    (hd : d.Canonical) {t : PermitType} (ht : p.permitType? d = some t)
    (hr : termDuration ∈ t.rules) :
    ∃ duration fires, (p.documentFacts d).get? permitDuration = some duration ∧
      (standardEngine p.dateFormat).runRule (p.documentFacts d) termDuration = .ok fires ∧
      (fires = false ↔ TermLength p.dateFormat
        ((completed d).descend? ["permitData", "startDate"]) duration) ∧
      (fires = true → termDuration.event.payload ∈ (p.validateDocument d).violations) := by
  obtain ⟨duration, hduration⟩ : ∃ v, (p.documentFacts d).get? permitDuration = some v :=
    p.exists_fieldFact hd (by decide)
  obtain ⟨fires, hrun, hfires⟩ := runRule_termDuration hduration (p.get?_daysInPermitYear d)
  refine ⟨duration, fires, hduration, hrun, hfires, ?_⟩
  rintro rfl
  refine mem_violations_of_runRule hs ?_ (by decide) hrun
  rw [ruleSets, ht]
  exact List.mem_flatten.mpr ⟨t.rules, by simp, hr⟩

/-- A duration that is the text of a number. -/
theorem term_duration_fires_text :
    let t : PermitType := { id := "TROS", name := "Oversize", rules := [termDuration] }
    let p : Policy := { definition := { version := "1", permitTypes := [t] }, today := default }
    let d : Value := .object
      [("permitData", .object
          [("permitDuration", .string "30"), ("startDate", .string "2024-01-01")]),
        ("permitType", .string "TROS")]
    p.choice = .standard ∧ d.Canonical ∧ p.permitType? d = some t ∧ termDuration ∈ t.rules ∧
      termDuration.event.payload ∈ (p.validateDocument d).violations := by
  intro t p d
  have hd : d.Canonical := by decide
  have ht : p.permitType? d = some t := rfl
  have hr : termDuration ∈ t.rules := List.mem_singleton_self _
  obtain ⟨duration, fires, hduration, -, hfires, hviolation⟩ :=
    term_duration_fires p rfl d hd ht hr
  have hpath : ["permitData", "permitDuration"] ∈ Application.fieldPaths := by decide
  have hfact : (p.documentFacts d).get? permitDuration = some (.string "30") :=
    (p.get?_fieldFact d hd hpath).trans (by decide)
  obtain rfl := Option.some.inj (hduration.symm.trans hfact)
  refine ⟨rfl, hd, ht, hr, hviolation ?_⟩
  rw [← Bool.not_eq_false, hfires]
  rintro (⟨_, _, _, ⟨⟩, _⟩ | ⟨_, _, _, ⟨⟩, _⟩ | ⟨⟨⟩, _⟩)

/-- An application with neither a duration nor a start date is let through. -/
theorem term_duration_lets_nulls_through :
    let t : PermitType := { id := "TROS", name := "Oversize", rules := [termDuration] }
    let p : Policy := { definition := { version := "1", permitTypes := [t] }, today := default }
    let d : Value := .object [("permitType", .string "TROS")]
    d.Canonical ∧ p.permitType? d = some t ∧
      (p.documentFacts d).get? permitDuration = some .null ∧
      (standardEngine p.dateFormat).runRule (p.documentFacts d) termDuration = .ok false ∧
      (p.validateDocument d).violations = [] := by
  intro t p d
  have hd : d.Canonical := by decide
  have ht : p.permitType? d = some t := rfl
  have hpath : ["permitData", "permitDuration"] ∈ Application.fieldPaths := by decide
  have hfact : (p.documentFacts d).get? permitDuration = some .null :=
    (p.get?_fieldFact d hd hpath).trans (by decide)
  have hstart : (completed d).descend? ["permitData", "startDate"] = some .null := by decide
  obtain ⟨fires, hrun, hfires⟩ := runRule_termDuration hfact (p.get?_daysInPermitYear d)
  obtain rfl : fires = false := by
    refine hfires.mpr (Or.inr (Or.inr ⟨rfl, ?_⟩))
    rw [hstart]
    rintro _ ⟨_, _, ⟨⟩, _⟩
  refine ⟨hd, ht, hfact, hrun, ?_⟩
  have hsets : (p.ruleSets d).flatten = [termDuration] := by
    rw [ruleSets, ht]
    rfl
  apply violations_eq_nil rfl
  · rw [ht]
    rfl
  · rw [hsets]
    exact List.forall_mem_singleton.mpr hrun

end Policy
end PermitPolicy
