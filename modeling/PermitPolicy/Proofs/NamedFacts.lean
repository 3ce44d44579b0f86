import Mathlib.Data.List.Basic
import PermitPolicy.Proofs.Reached

/-! The facts and operators that a rule names.  Nothing else has a bearing on it, so facts and
operators may be added freely.  And an engine for which unknown facts count as `null` runs rules as
the strict one does where each unknown fact that they name is `null`. -/

namespace PermitPolicy
open Json
set_option autoImplicit false

def Operand.factNames : Operand → List String
  | .fact reference => [reference.fact]
  | .literal _ => []

def Comparison.factNames (c : Comparison) : List String := c.fact :: c.operand.factNames

/-- The facts that a rule refers to, with a path or without. -/
def Rule.factNames (r : Rule) : List String := r.conditions.comparisons.flatMap Comparison.factNames

def Rule.operatorNames (r : Rule) : List String := r.conditions.comparisons.map Comparison.operator

namespace Engine

/-- What a comparison names is the same, or missing, on both sides. -/
structure AgreeAt (e e' : Engine) (facts facts' : Facts) (c : Comparison) : Prop where
  operator : e'.operators.get? c.operator = e.operators.get? c.operator
  facts : ∀ name ∈ c.factNames, facts'.get? name = facts.get? name

variable {e e' : Engine} {facts facts' : Facts}

theorem factValue_congr {name : String} (h : facts'.get? name = facts.get? name)
    (ho : facts.contains name ∨ e'.allowUndefinedFacts = e.allowUndefinedFacts)
    (path : Option String) : e'.factValue facts' name path = e.factValue facts name path := by
  unfold factValue Facts.resolve?
  rw [h]
  rcases ho with hname | ho
  · obtain ⟨v, hv⟩ := Table.contains_iff.mp hname
    rw [hv]
    rfl
  · rw [ho]

theorem compare_congr {c : Comparison}
    (hop : e'.operators.get? c.operator = e.operators.get? c.operator)
    (h : ∀ name ∈ c.factNames, ∀ path,
      e'.factValue facts' name path = e.factValue facts name path) :
    e'.compare facts' c = e.compare facts c := by
  have hfact := h c.fact List.mem_cons_self c.path
  have hvalue : e'.operandValue facts' c.operand = e.operandValue facts c.operand := by
    cases ho : c.operand with
    | literal v => rfl
    | fact reference =>
      have hname : reference.fact ∈ c.factNames := by
        rw [Comparison.factNames, ho]
        exact List.mem_cons_of_mem _ List.mem_cons_self
      exact h _ hname reference.path
  unfold compare
  rw [hop, hfact, hvalue]

theorem AgreeAt.compare (ho : e'.allowUndefinedFacts = e.allowUndefinedFacts) {c : Comparison}
    (h : AgreeAt e e' facts facts' c) : e'.compare facts' c = e.compare facts c :=
  compare_congr h.operator fun name hname => factValue_congr (h.facts name hname) (Or.inr ho)

theorem runRule_congr {r : Rule}
    (h : ∀ leaf ∈ r.conditions.comparisons, e'.compare facts' leaf = e.compare facts leaf) :
    e'.runRule facts' r = e.runRule facts r := by
  rw [Condition.comparisons_eq_leaves] at h
  exact check_congr r.conditions fun leaf hl => h leaf (reached_subset e facts _ hl)

theorem evaluate_congr {ruleSets : List (List Rule)}
    (h : ∀ r ∈ ruleSets.flatten, e'.runRule facts' r = e.runRule facts r) :
    e'.evaluate facts' ruleSets = e.evaluate facts ruleSets := by
  unfold evaluate
  apply List.foldl_ext
  intro run r hr
  rw [h r (mem_inOrder.mp hr)]

/-- Engines with the same treatment of unknown facts run a rule alike if they agree on what its
comparisons name; they may differ in any fact and operator that it does not name.  So it is with
whole runs. -/
theorem runs_by_names (e e' : Engine) (facts facts' : Facts)
    (ho : e'.allowUndefinedFacts = e.allowUndefinedFacts) :
    (∀ r : Rule, (∀ leaf ∈ r.conditions.comparisons, AgreeAt e e' facts facts' leaf) →
        e'.runRule facts' r = e.runRule facts r) ∧
      (∀ r : Rule, (∀ name, facts'.get? name ≠ facts.get? name → name ∉ r.factNames) →
        (∀ name, e'.operators.get? name ≠ e.operators.get? name → name ∉ r.operatorNames) →
          e'.runRule facts' r = e.runRule facts r) ∧
      ∀ ruleSets : List (List Rule), (∀ r ∈ ruleSets.flatten,
          ∀ leaf ∈ r.conditions.comparisons, AgreeAt e e' facts facts' leaf) →
        e'.evaluate facts' ruleSets = e.evaluate facts ruleSets := by
  have hrule : ∀ r : Rule, (∀ leaf ∈ r.conditions.comparisons, AgreeAt e e' facts facts' leaf) →
      e'.runRule facts' r = e.runRule facts r :=
    fun r h => runRule_congr fun leaf hl => (h leaf hl).compare ho
  refine ⟨hrule, ?_, ?_⟩
  · intro r hfacts hoperators
    apply hrule
    intro leaf hl
    constructor
    · by_contra hne
      exact hoperators _ hne (List.mem_map_of_mem hl)
    · intro name hname
      by_contra hne
      exact hfacts name hne (List.mem_flatMap.mpr ⟨leaf, hl, hname⟩)
  · intro ruleSets h
    exact evaluate_congr fun r hr => hrule r (h r hr)

/-- Other operators and one fact more, for a rule that fails for an unknown fact and for one that
fires. -/
theorem runs_by_names_other_facts :
    let e := Policy.standardEngine .standard
    let operators := (e.operators.restrict ["equal"]).insert "startsWith"
      ⟨"startsWith", fun _ => true, fun _ _ => true⟩
    let e' : Engine := { operators }
    let facts : Facts := Table.empty.insert "permitType" (.string "TROS")
    let facts' : Facts := facts.insert "weight" (.int 5)
    let tros : Comparison := ⟨"permitType", "equal", .literal (.string "TROS"), none⟩
    let axles : Comparison := ⟨"permitType", "equal", .fact ⟨"axles", none⟩, none⟩
    let fails : Rule := { conditions := .all [.comparison tros, .comparison axles], event := {} }
    let fires : Rule := { conditions := .comparison tros, event := {} }
    e'.allowUndefinedFacts = e.allowUndefinedFacts ∧
      (∀ leaf ∈ fails.conditions.comparisons, AgreeAt e e' facts facts' leaf) ∧
      e'.runRule facts' fails = e.runRule facts fails ∧
      e.runRule facts fails = .error (.undefinedFact "axles") ∧
      (∀ name, facts'.get? name ≠ facts.get? name → name ∉ fires.factNames) ∧
      (∀ name, e'.operators.get? name ≠ e.operators.get? name → name ∉ fires.operatorNames) ∧
      e'.runRule facts' fires = e.runRule facts fires ∧ e.runRule facts fires = .ok true ∧
      e'.evaluate facts' [[fails]] = e.evaluate facts [[fails]] := by
  intro e operators e' facts facts' tros axles fails fires
  have hagree : ∀ leaf ∈ fails.conditions.comparisons, AgreeAt e e' facts facts' leaf := by
    rw [Condition.comparisons_eq_leaves]
    intro leaf hl
    rcases List.mem_cons.mp hl with rfl | hl
    · exact ⟨rfl, by decide⟩
    · obtain rfl := List.mem_singleton.mp hl
      exact ⟨rfl, by decide⟩
  have hfires : fires.conditions.comparisons = [tros] := Condition.comparisons_eq_leaves _
  have hfacts : ∀ name, facts'.get? name ≠ facts.get? name → name ∉ fires.factNames := by
    intro name hne hname
    rw [Rule.factNames, hfires] at hname
    obtain rfl := List.mem_singleton.mp hname
    exact hne rfl
  have hoperators : ∀ name, e'.operators.get? name ≠ e.operators.get? name →
      name ∉ fires.operatorNames := by
    intro name hne hname
    rw [Rule.operatorNames, hfires] at hname
    obtain rfl := List.mem_singleton.mp hname
    exact hne rfl
  have hruleSets : ∀ r ∈ [[fails]].flatten, ∀ leaf ∈ r.conditions.comparisons,
      AgreeAt e e' facts facts' leaf := by
    intro r hr
    obtain rfl := List.mem_singleton.mp hr
    exact hagree
  obtain ⟨hrule, hunnamed, hrun⟩ := runs_by_names e e' facts facts' rfl
  exact ⟨rfl, hagree, hrule fails hagree, rfl, hfacts, hoperators,
    hunnamed fires hfacts hoperators, rfl, hrun [[fails]] hruleSets⟩

end Engine

theorem Path.select?_null (path : String) : (Path.select? .null path).getD .null = .null := by
  unfold Path.select?
  cases Path.steps? path with
  | none => rfl
  | some steps =>
    cases steps with
    | nil => rfl
    | cons step rest => cases step <;> rfl

namespace Facts

def withNull (facts : Facts) (name : String) : Facts :=
  if facts.contains name then facts else facts.insert name .null

/-- The facts with `null` for every one of the names that has no value. -/
def withNulls (facts : Facts) (names : List String) : Facts := names.foldl withNull facts

theorem get?_withNull (facts : Facts) (n name : String) :
    (facts.withNull n).get? name =
      (facts.get? name).or (if n = name then some .null else none) := by
  unfold withNull
  by_cases hn : n = name
  · subst hn
    cases hget : facts.get? n with
    | none =>
      rw [if_neg (Table.not_contains_iff.mpr hget), Table.get?_insert, if_pos rfl, if_pos rfl,
        Option.none_or]
    | some v => rw [if_pos (Table.contains_iff.mpr ⟨v, hget⟩), hget, Option.some_or]
  · rw [if_neg hn, Option.or_none]
    split
    · rfl
    · rw [Table.get?_insert, if_neg hn]

theorem get?_withNulls (facts : Facts) (names : List String) (name : String) :
    (facts.withNulls names).get? name =
      (facts.get? name).or (if name ∈ names then some .null else none) := by
  unfold withNulls
  induction names generalizing facts with
  | nil => simp
  | cons n names ih =>
    rw [List.foldl_cons, ih, get?_withNull, Option.or_assoc]
    by_cases hn : n = name
    · simp [hn]
    · simp [hn, Ne.symm hn]

theorem resolve?_null {facts : Facts} {name : String} (h : facts.get? name = some .null)
    (path : Option String) : facts.resolve? name path = some .null := by
  unfold resolve?
  rw [h]
  cases path with
  | none => rfl
  | some p => exact congrArg some (Path.select?_null p)

end Facts

namespace Engine

def strict (operators : OperatorSet) : Engine := { operators }

def permissive (operators : OperatorSet) : Engine := { operators, allowUndefinedFacts := true }

variable {operators : OperatorSet} {facts : Facts}

theorem factValue_permissive {names : List String} {name : String} (h : name ∈ names)
    (path : Option String) :
    (strict operators).factValue (facts.withNulls names) name path =
      (permissive operators).factValue facts name path := by
  have hget := facts.get?_withNulls names name
  rw [if_pos h] at hget
  cases hf : facts.get? name with
  | some v =>
    rw [hf, Option.some_or] at hget
    exact factValue_congr (hget.trans hf.symm) (Or.inl (Table.contains_iff.mpr ⟨v, hf⟩)) path
  | none =>
    rw [hf, Option.none_or] at hget
    rw [factValue, factValue, Facts.resolve?_null hget, Facts.resolve?, hf]
    rfl

theorem contains_of_compare {c : Comparison} {b : Bool}
    (h : (strict operators).compare facts c = .ok b) :
    ∀ name ∈ c.factNames, facts.contains name := by
  have hno : ∀ err, ¬ (strict operators).Cause facts c err := by
    intro err hc
    rw [compare_eq_error_iff.mpr hc] at h
    cases h
  have hknown : (strict operators).operators.contains c.operator := by
    by_contra hop
    exact hno _ (.operator (Table.not_contains_iff.mp hop))
  have hfact : facts.contains c.fact := by
    by_contra hname
    exact hno _ (.fact hknown ⟨rfl, Table.not_contains_iff.mp hname⟩)
  intro name hmem
  rcases List.mem_cons.mp hmem with rfl | hmem
  · exact hfact
  · cases ho : c.operand with
    | literal v => rw [ho] at hmem; cases hmem
    | fact reference =>
      rw [ho] at hmem
      obtain rfl := List.mem_singleton.mp hmem
      by_contra hname
      exact hno _ (.reference reference hknown hfact ho
        ⟨rfl, Table.not_contains_iff.mp hname⟩)

theorem compare_of_strict {c : Comparison} {b : Bool}
    (h : (strict operators).compare facts c = .ok b) :
    (permissive operators).compare facts c = (strict operators).compare facts c :=
  compare_congr rfl fun name hname =>
    factValue_congr rfl (Or.inl (contains_of_compare h name hname))

/-- What the strict engine decides, the permissive engine decides alike. -/
theorem runRule_of_strict {r : Rule} {b : Bool}
    (h : (strict operators).runRule facts r = .ok b) :
    (permissive operators).runRule facts r = .ok b := by
  rw [← h]
  apply check_congr
  intro leaf hl
  cases hleaf : (strict operators).compare facts leaf with
  | ok a => exact (compare_of_strict hleaf).trans hleaf
  | error err =>
    -- A comparison that is reached and fails would have made the rule fail.
    have hfails := (check_eq_error_iff r.conditions).mpr ⟨leaf, hl, hleaf⟩
    rw [runRule, hfails] at h
    cases h

theorem runRule_permissive_ne (r : Rule) (name : String) :
    (permissive operators).runRule facts r ≠ .error (.undefinedFact name) := by
  intro h
  obtain ⟨leaf, -, hleaf⟩ := (check_eq_error_iff r.conditions).mp h
  cases compare_eq_error_iff.mp hleaf with
  | fact _ missing => cases missing.1
  | reference _ _ _ _ missing => cases missing.1

/-- The engine that takes unknown facts for `null` runs as the strict engine does where every
unknown fact that the rules refer to is `null`; it never fails for an unknown fact; and it decides
as the strict engine does whatever that decides. -/
theorem permissive_runs (operators : OperatorSet) (facts : Facts) (ruleSets : List (List Rule)) :
    (permissive operators).evaluate facts ruleSets =
        (strict operators).evaluate
          (facts.withNulls (ruleSets.flatten.flatMap Rule.factNames)) ruleSets ∧
      (∀ failure ∈ ((permissive operators).evaluate facts ruleSets).failures,
        ∀ name, failure.error ≠ .undefinedFact name) ∧
      ∀ r : Rule, (∀ name, (permissive operators).runRule facts r ≠ .error (.undefinedFact name)) ∧
        ∀ b, (strict operators).runRule facts r = .ok b →
          (permissive operators).runRule facts r = .ok b := by
  refine ⟨?_, ?_, ?_⟩
  · symm
    apply evaluate_congr
    intro r hr
    apply runRule_congr
    intro leaf hl
    refine compare_congr rfl fun name hname => factValue_permissive ?_
    exact List.mem_flatMap.mpr ⟨r, hr, List.mem_flatMap.mpr ⟨leaf, hl, hname⟩⟩
  · intro failure hf name herror
    rw [evaluate_eq] at hf
    obtain ⟨r, -, hr⟩ := List.mem_filterMap.mp hf
    unfold failure? at hr
    split at hr
    · rename_i err hrun
      cases hr
      cases herror
      exact runRule_permissive_ne r name hrun
    · cases hr
  · intro r
    exact ⟨runRule_permissive_ne r, fun b => runRule_of_strict⟩

/-- A rule about an unknown fact that fails for a later comparison if the fact is `null`, and one
that does not come to it. -/
theorem permissive_runs_unknown_fact :
    let operators := OperatorSet.standard .standard
    let facts : Facts := Table.empty.insert "permitType" (.string "TROS")
    let tros : Comparison := ⟨"permitType", "equal", .literal (.string "TROS"), none⟩
    let axles : Comparison := ⟨"axles", "equal", .literal .null, some "$[0].weight"⟩
    let later : Rule :=
      { conditions := .all [.comparison axles, .comparison startsWithT], event := {} }
    let first : Rule := { conditions := .any [.comparison tros, .comparison axles], event := {} }
    let failure : Failure := ⟨later.label, .unknownOperator "startsWith"⟩
    (strict operators).runRule facts later = .error (.undefinedFact "axles") ∧
      failure ∈ ((permissive operators).evaluate facts [[later]]).failures ∧
      failure.error ≠ .undefinedFact "axles" ∧
      failure ∈ ((strict operators).evaluate
        (facts.withNulls ([[later]].flatten.flatMap Rule.factNames)) [[later]]).failures ∧
      (strict operators).runRule facts first = .ok true ∧
      (permissive operators).runRule facts first = .ok true := by
  intro operators facts tros axles later first failure
  have hrun : (permissive operators).runRule facts later =
      .error (.unknownOperator "startsWith") := rfl
  have hfailure : failure ∈ ((permissive operators).evaluate facts [[later]]).failures := by
    rw [evaluate_singleton, hrun]
    exact List.mem_singleton_self failure
  have hfirst : (strict operators).runRule facts first = .ok true := rfl
  obtain ⟨hsame, hnever, hrules⟩ := permissive_runs operators facts [[later]]
  exact ⟨rfl, hfailure, hnever failure hfailure "axles", hsame ▸ hfailure, hfirst,
    (hrules first).2 true hfirst⟩

end Engine
end PermitPolicy
