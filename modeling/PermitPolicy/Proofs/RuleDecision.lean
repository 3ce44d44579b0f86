import PermitPolicy.Proofs.FactNames
import PermitPolicy.Proofs.Reporting
import PermitPolicy.Proofs.RuleOrder

/-! Decided rules.  A comparison with a known operator and known facts is decided, and a condition
whose comparisons are decided has their truth.  The facts of any document have every name that the
facts of an absent application have, so that rules about these names are decided whatever is
submitted. -/

namespace PermitPolicy
open Json
set_option autoImplicit false

namespace Condition

theorem leavesOf_append (cs ds : List Condition) :
    leavesOf (cs ++ ds) = leavesOf cs ++ leavesOf ds := by
  induction cs with
  | nil => rfl
  | cons c cs ih => simp only [List.cons_append, leavesOf, ih, List.append_assoc]

theorem gather_eq (found : List Comparison) (pending : List Condition) :
    gather found pending = found ++ leavesOf pending := by
  fun_induction gather found pending with
  | case1 found => simp [leavesOf]
  | case2 found children pending ih => rw [ih, leavesOf_append, leavesOf, leaves]
  | case3 found children pending ih => rw [ih, leavesOf_append, leavesOf, leaves]
  | case4 found child pending ih => rw [ih, leavesOf, leavesOf, leaves]
  | case5 found leaf pending ih => rw [ih, leavesOf, leaves, List.append_assoc]

theorem comparisons_eq_leaves (c : Condition) : c.comparisons = c.leaves := by
  rw [comparisons, gather_eq]
  simp [leavesOf]

mutual
/-- The truth of a condition whose comparisons are true or false. -/
def truth (v : Comparison → Bool) : Condition → Bool
  | .all children => truthAll v children
  | .any children => truthAny v children
  | .not child => !truth v child
  | .comparison leaf => v leaf

def truthAll (v : Comparison → Bool) : List Condition → Bool
  | [] => true
  | c :: rest => truth v c && truthAll v rest

def truthAny (v : Comparison → Bool) : List Condition → Bool
  | [] => false
  | c :: rest => truth v c || truthAny v rest
end

end Condition

namespace Engine
variable (e : Engine) (facts : Facts)

/-- Neither the operator of a comparison nor a fact is unknown. -/
structure Known (names : List String) (c : Comparison) : Prop where
  operator : e.operators.contains c.operator
  fact : c.fact ∈ names
  reference : ∀ reference, c.operand = .fact reference → reference.fact ∈ names

variable {e facts}

theorem exists_factValue {name : String} (h : facts.contains name) (path : Option String) :
    ∃ v, e.factValue facts name path = .ok v := by
  obtain ⟨v, hv⟩ := Table.contains_iff.mp h
  unfold factValue Facts.resolve?
  rw [hv]
  exact ⟨_, rfl⟩

theorem factValue_of_get? {name : String} {v : Value} (h : facts.get? name = some v) :
    e.factValue facts name none = .ok v := by
  unfold factValue Facts.resolve?
  rw [h]
  rfl

theorem compare_of_values {c : Comparison} {op : Operator} {fact value : Value}
    (hop : e.operators.get? c.operator = some op)
    (hfact : e.factValue facts c.fact c.path = .ok fact)
    (hvalue : e.operandValue facts c.operand = .ok value) :
    e.compare facts c = .ok (op.holds fact value) := by
  unfold compare
  rw [hop]
  simp only [hfact, hvalue]
  rfl

theorem exists_compare {names : List String} (hn : ∀ name ∈ names, facts.contains name)
    {c : Comparison} (hc : e.Known names c) : ∃ b, e.compare facts c = .ok b := by
  obtain ⟨op, hop⟩ := Table.contains_iff.mp hc.operator
  obtain ⟨fact, hfact⟩ := exists_factValue (e := e) (hn _ hc.fact) c.path
  have hvalue : ∃ v, e.operandValue facts c.operand = .ok v := by
    cases ho : c.operand with
    | literal v => exact ⟨v, rfl⟩
    | fact reference => exact exists_factValue (hn _ (hc.reference reference ho)) reference.path
  obtain ⟨value, hvalue⟩ := hvalue
  exact ⟨_, compare_of_values hop hfact hvalue⟩

mutual
/-- A condition whose comparisons are all decided has their classical truth: to stop early makes
no difference. -/
theorem check_eq_truth {v : Comparison → Bool} : (c : Condition) →
    (∀ leaf ∈ c.leaves, e.compare facts leaf = .ok (v leaf)) → e.check facts c = .ok (c.truth v)
  | .all children, h => checkAll_eq_truth children h
  | .any children, h => checkAny_eq_truth children h
  | .not child, h => by rw [check, Condition.truth, check_eq_truth child h]
  | .comparison leaf, h => h leaf List.mem_cons_self

theorem checkAll_eq_truth {v : Comparison → Bool} : (cs : List Condition) →
    (∀ leaf ∈ Condition.leavesOf cs, e.compare facts leaf = .ok (v leaf)) →
      e.checkAll facts cs = .ok (Condition.truthAll v cs)
  | [], _ => rfl
  | c :: cs, h => by
    have hc := check_eq_truth c fun leaf hl => h leaf (List.mem_append_left _ hl)
    have hcs := checkAll_eq_truth cs fun leaf hl => h leaf (List.mem_append_right _ hl)
    rw [checkAll, Condition.truthAll, hc]
    cases c.truth v with
    | true => exact hcs
    | false => rfl

theorem checkAny_eq_truth {v : Comparison → Bool} : (cs : List Condition) →
    (∀ leaf ∈ Condition.leavesOf cs, e.compare facts leaf = .ok (v leaf)) →
      e.checkAny facts cs = .ok (Condition.truthAny v cs)
  | [], _ => rfl
  | c :: cs, h => by
    have hc := check_eq_truth c fun leaf hl => h leaf (List.mem_append_left _ hl)
    have hcs := checkAny_eq_truth cs fun leaf hl => h leaf (List.mem_append_right _ hl)
    rw [checkAny, Condition.truthAny, hc]
    cases c.truth v with
    | true => rfl
    | false => exact hcs
end

variable (e facts) in
/-- The answer to a comparison; one that fails is given none. -/
def answer (leaf : Comparison) : Bool := (e.compare facts leaf).toOption.getD false

theorem compare_eq_answer {leaf : Comparison} (h : ∃ b, e.compare facts leaf = .ok b) :
    e.compare facts leaf = .ok (e.answer facts leaf) := by
  obtain ⟨b, hb⟩ := h
  rw [answer, hb]
  rfl

/-- A rule is decided if the facts have all names that its comparisons may refer to. -/
theorem exists_runRule {names : List String} (hn : ∀ name ∈ names, facts.contains name)
    {r : Rule} (hr : ∀ c ∈ r.conditions.comparisons, e.Known names c) :
    ∃ b, e.runRule facts r = .ok b := by
  rw [Condition.comparisons_eq_leaves] at hr
  refine ⟨r.conditions.truth (e.answer facts), check_eq_truth r.conditions ?_⟩
  intro leaf hl
  exact compare_eq_answer (exists_compare hn (hr leaf hl))

theorem failures_evaluate_eq_nil {ruleSets : List (List Rule)}
    (h : ∀ r ∈ ruleSets.flatten, ∃ b, e.runRule facts r = .ok b) :
    (e.evaluate facts ruleSets).failures = [] := by
  rw [evaluate_eq]
  apply List.filterMap_eq_nil_iff.mpr
  intro r hr
  obtain ⟨b, hb⟩ := h r (mem_inOrder.mp hr)
  simp only [failure?, hb]

end Engine

namespace Table
variable {α : Type}

theorem mem_keys_iff {t : Table α} {key : String} : key ∈ t.keys ↔ t.contains key :=
  Entries.isSome_get?_iff.symm

theorem contains_insert (t : Table α) (key k : String) (a : α) :
    (t.insert key a).contains k ↔ key = k ∨ t.contains k := by
  unfold contains
  rw [get?_insert]
  by_cases h : key = k <;> simp [h]

end Table

namespace Facts
open Value Calendar DottedName

theorem names_emptyApplication : ∀ e ∈ emptyApplication.flatten "",
    e.1 ∈ Application.fieldPaths.map dotted := by decide

theorem contains_ofDocument_iff {name : String} (d : Value) (today : Date) (format : DateFormat) :
    (ofDocument d today format).contains name ↔
      name ∈ derivedNames ∨ (lastNamed? "" name (completed d)).isSome := by
  by_cases hname : name ∈ derivedNames
  · simp only [hname, true_or, iff_true]
    simp only [derivedNames, List.mem_cons, List.not_mem_nil, or_false] at hname
    unfold ofDocument
    simp only [Table.contains_insert]
    grind
  · rw [Table.contains, get?_ofDocument hname]
    simp [hname]

theorem mem_keys_absent {name : String} (today : Date) (format : DateFormat) :
    name ∈ (ofApplication none today format).keys ↔
      name ∈ derivedNames ∨ name ∈ Application.fieldPaths.map dotted := by
  rw [Table.mem_keys_iff, ofApplication, contains_ofDocument_iff]
  by_cases hname : name ∈ derivedNames
  · simp only [hname, true_or]
  simp only [hname, false_or]
  constructor
  · intro h
    obtain ⟨v, hv⟩ := Option.isSome_iff_exists.mp h
    exact names_emptyApplication _ (List.mem_reverse.mp (Entries.mem_of_get? hv))
  · intro h
    obtain ⟨path, hpath, rfl⟩ := List.mem_map.mp h
    have hnull : Value.null.Canonical := trivial
    have hfact := get?_fieldPath hnull hpath today format
    rw [get?_ofDocument hname] at hfact
    have hdocument : Application.document none = .null := rfl
    rw [hdocument, hfact]
    simp [isSome_descend?_completed hnull hpath]

theorem contains_ofDocument {name : String} (today : Date) (format : DateFormat)
    (h : name ∈ (ofApplication none today format).keys) {d : Value} (hd : d.Canonical) :
    (ofDocument d today format).contains name := by
  rcases (mem_keys_absent today format).mp h with h | h
  · exact (contains_ofDocument_iff d today format).mpr (Or.inl h)
  · obtain ⟨path, hpath, rfl⟩ := List.mem_map.mp h
    rw [Table.contains, get?_fieldPath hd hpath]
    simp [isSome_descend?_completed hd hpath]

end Facts

namespace Policy
open Calendar

/-- Names that every application has facts for. -/
def expectedNames (p : Policy) : List String :=
  (Facts.ofApplication none p.today p.dateFormat).keys ++
    [Facts.validationDate, Facts.daysInPermitYear, Facts.expiryDate, allowedVehiclesFact,
      globalWeightDefaultsFact, globalSizeDefaultsFact]

def rules (p : Policy) : List Rule :=
  p.definition.commonRules ++ p.definition.permitTypes.flatMap PermitType.rules

theorem contains_documentFacts (p : Policy) {d : Value} (hd : d.Canonical) {name : String}
    (h : name ∈ p.expectedNames) : (p.documentFacts d).contains name := by
  have hderived : name ∈ Facts.derivedNames →
      (Facts.ofDocument d p.today p.dateFormat).contains name :=
    fun h => (Facts.contains_ofDocument_iff d p.today p.dateFormat).mpr (Or.inl h)
  unfold documentFacts
  simp only [Table.contains_insert]
  rcases List.mem_append.mp h with h | h
  · simp [Facts.contains_ofDocument p.today p.dateFormat h hd]
  · simp only [Facts.derivedNames, List.mem_cons, List.not_mem_nil, or_false] at h hderived
    grind

theorem mem_rules_of_ruleSets {p : Policy} {d : Value} {r : Rule}
    (h : r ∈ (p.ruleSets d).flatten) : r ∈ p.rules := by
  rw [ruleSets_eq, List.flatten_cons] at h
  rcases List.mem_append.mp h with h | h
  · exact List.mem_append_left _ h
  · apply List.mem_append_right
    cases ht : p.namedPermitType? d with
    | none => simp [ht] at h
    | some t =>
      simp only [ht, Option.map_some, Option.toList_some, List.flatten_cons, List.flatten_nil,
        List.append_nil] at h
      exact List.mem_flatMap.mpr ⟨t, List.mem_of_find?_eq_some ht, h⟩

theorem exists_fieldFact (p : Policy) {d : Value} (hd : d.Canonical) {name : String}
    (h : name ∈ Application.fieldPaths.map DottedName.dotted) :
    ∃ v, (p.documentFacts d).get? name = some v := by
  have hname : name ∈ p.expectedNames :=
    List.mem_append_left _ ((Facts.mem_keys_absent p.today p.dateFormat).mpr (Or.inr h))
  exact Table.contains_iff.mp (p.contains_documentFacts hd hname)

theorem evaluator_standard {p : Policy} (hs : p.choice = .standard) :
    p.evaluator = (standardEngine p.dateFormat).evaluator := by
  unfold evaluator
  rw [hs]

theorem run_standard {p : Policy} (hs : p.choice = .standard) (d : Value) :
    p.run d = (standardEngine p.dateFormat).evaluate (p.documentFacts d) (p.ruleSets d) := by
  rw [run, evaluator_standard hs]
  rfl

theorem mem_violations_of_runRule {p : Policy} (hs : p.choice = .standard) {d : Value} {r : Rule}
    (hr : r ∈ (p.ruleSets d).flatten) (hk : r.event.kind ∉ harmlessTypes)
    (h : (standardEngine p.dateFormat).runRule (p.documentFacts d) r = .ok true) :
    r.event.payload ∈ (p.validateDocument d).violations := by
  rw [validateDocument_eq, Report.violations_recordEvents, run_standard hs, Engine.evaluate_eq]
  apply List.mem_append_right
  refine List.mem_map_of_mem (List.mem_filter.mpr ⟨List.mem_filterMap.mpr ⟨r, ?_, ?_⟩, ?_⟩)
  · exact Engine.mem_inOrder.mpr hr
  · simp only [Engine.fired?, h]
  · exact decide_eq_true hk

/-- An application of a defined permit type has no violations where no rule holds. -/
theorem violations_eq_nil {p : Policy} (hs : p.choice = .standard) {d : Value}
    (ht : (p.permitType? d).isSome)
    (h : ∀ r ∈ (p.ruleSets d).flatten,
      (standardEngine p.dateFormat).runRule (p.documentFacts d) r = .ok false) :
    (p.validateDocument d).violations = [] := by
  have hfired : (Engine.inOrder (p.ruleSets d).flatten).filterMap
      ((standardEngine p.dateFormat).fired? (p.documentFacts d)) = [] := by
    rw [List.filterMap_eq_nil_iff]
    intro r hr
    rw [Engine.fired?, h r (Engine.mem_inOrder.mp hr)]
  rw [validateDocument_eq, Report.violations_recordEvents, run_standard hs, Engine.evaluate_eq,
    hfired, initialReport, ← permitType?_eq, if_pos ht]
  rfl

/-- Rules that compare expected facts by standard operators are decided for every document. -/
theorem run_decides_rules (p : Policy) (hs : p.choice = .standard)
    (hk : ∀ r ∈ p.rules, ∀ c ∈ r.conditions.comparisons,
      (standardEngine p.dateFormat).Known p.expectedNames c)
    (d : Value) (hd : d.Canonical) :
    (∀ name ∈ p.expectedNames, (p.documentFacts d).contains name) ∧
      (p.run d).failures = [] ∧
        ∀ r ∈ (p.ruleSets d).flatten, ∃ b,
          (standardEngine p.dateFormat).runRule (p.documentFacts d) r = .ok b := by
  have hnames : ∀ name ∈ p.expectedNames, (p.documentFacts d).contains name :=
    fun _ => p.contains_documentFacts hd
  have hrules : ∀ r ∈ (p.ruleSets d).flatten, ∃ b,
      (standardEngine p.dateFormat).runRule (p.documentFacts d) r = .ok b :=
    fun r hr => Engine.exists_runRule hnames (hk r (mem_rules_of_ruleSets hr))
  refine ⟨hnames, ?_, hrules⟩
  have hrun : p.run d =
      (standardEngine p.dateFormat).evaluate (p.documentFacts d) (p.ruleSets d) := by
    unfold run evaluator
    rw [hs]
    rfl
  rw [hrun]
  exact Engine.failures_evaluate_eq_nil hrules

/-- A start date before the day of validation, asked of a document whose permit data is a text. -/
theorem run_decides_rules_without_sections :
    let past : Comparison :=
      ⟨"permitData.startDate", "dateLessThan", .fact ⟨Facts.validationDate, none⟩, none⟩
    let rule : Rule := { conditions := .not (.comparison past), event := { kind := "warning" } }
    let p : Policy := { definition := { version := "1", commonRules := [rule] }, today := default }
    let d : Value := .object [("permitData", .string "none"), ("permitType", .array [])]
    (∀ r ∈ p.rules, ∀ c ∈ r.conditions.comparisons,
        (standardEngine p.dateFormat).Known p.expectedNames c) ∧
      (p.run d).failures = [] ∧
        ∃ b, (standardEngine p.dateFormat).runRule (p.documentFacts d) rule = .ok b := by
  intro past rule p d
  have hknown : ∀ r ∈ p.rules, ∀ c ∈ r.conditions.comparisons,
      (standardEngine p.dateFormat).Known p.expectedNames c := by
    intro r hr c hc
    obtain rfl : r = rule := List.mem_singleton.mp hr
    rw [Condition.comparisons_eq_leaves] at hc
    obtain rfl : c = past := List.mem_singleton.mp hc
    refine ⟨by decide, List.mem_append_left _ ?_, ?_⟩
    · exact (Facts.mem_keys_absent p.today p.dateFormat).mpr (Or.inr (by decide))
    · rintro _ ⟨⟩
      exact List.mem_append_right _ List.mem_cons_self
  obtain ⟨-, hfailures, hdecided⟩ := p.run_decides_rules rfl hknown d (by decide)
  exact ⟨hknown, hfailures, hdecided rule List.mem_cons_self⟩

end Policy
end PermitPolicy
