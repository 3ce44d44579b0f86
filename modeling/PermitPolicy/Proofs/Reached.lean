import PermitPolicy.Basic
import PermitPolicy.Proofs.RuleDecision

/-! The comparisons that are reached.  A condition is decided from left to right and no further
than it takes, so its answer rests on the comparisons that are reached alone.  A comparison by an
unknown operator makes the rule fail where it is reached, and has no bearing on it elsewhere. -/

namespace PermitPolicy
open Json
set_option autoImplicit false

namespace Engine

section
variable (e : Engine) (facts : Facts)

mutual
/-- The comparisons that are decided before the condition is, from left to right. -/
def reached : Condition → List Comparison
  | .all children => reachedAll children
  | .any children => reachedAny children
  | .not child => reached child
  | .comparison leaf => [leaf]

def reachedAll : List Condition → List Comparison
  | [] => []
  | c :: rest =>
    match e.check facts c with
    | .ok true => reached c ++ reachedAll rest
    | _ => reached c

def reachedAny : List Condition → List Comparison
  | [] => []
  | c :: rest =>
    match e.check facts c with
    | .ok false => reached c ++ reachedAny rest
    | _ => reached c
end

mutual
theorem reached_subset : (c : Condition) → e.reached facts c ⊆ c.leaves
  | .all children => reachedAll_subset children
  | .any children => reachedAny_subset children
  | .not child => reached_subset child
  | .comparison _ => fun _ h => h

theorem reachedAll_subset : (cs : List Condition) →
    e.reachedAll facts cs ⊆ Condition.leavesOf cs
  | [] => fun _ h => h
  | c :: cs => by
    have hc := reached_subset c
    have hcs := reachedAll_subset cs
    rw [reachedAll, Condition.leavesOf]
    split
    · exact List.append_subset.mpr ⟨List.subset_append_of_subset_left _ hc,
        List.subset_append_of_subset_right _ hcs⟩
    · exact List.subset_append_of_subset_left _ hc

theorem reachedAny_subset : (cs : List Condition) →
    e.reachedAny facts cs ⊆ Condition.leavesOf cs
  | [] => fun _ h => h
  | c :: cs => by
    have hc := reached_subset c
    have hcs := reachedAny_subset cs
    rw [reachedAny, Condition.leavesOf]
    split
    · exact List.append_subset.mpr ⟨List.subset_append_of_subset_left _ hc,
        List.subset_append_of_subset_right _ hcs⟩
    · exact List.subset_append_of_subset_left _ hc
end
end

variable {e : Engine} {facts : Facts}

mutual
/-- A condition fails exactly as one of the comparisons reached does. -/
theorem check_eq_error_iff {err : EvaluationError} : (c : Condition) →
    (e.check facts c = .error err ↔ ∃ leaf ∈ e.reached facts c, e.compare facts leaf = .error err)
  | .all children => checkAll_eq_error_iff children
  | .any children => checkAny_eq_error_iff children
  | .not child => by
    rw [check, reached, ← check_eq_error_iff child]
    cases e.check facts child <;> simp
  | .comparison leaf => by simp [check, reached]

theorem checkAll_eq_error_iff {err : EvaluationError} : (cs : List Condition) →
    (e.checkAll facts cs = .error err ↔
      ∃ leaf ∈ e.reachedAll facts cs, e.compare facts leaf = .error err)
  | [] => by simp [checkAll, reachedAll]
  | c :: cs => by
    have hc : e.check facts c = .error err ↔ _ := check_eq_error_iff c
    have hcs : e.checkAll facts cs = .error err ↔ _ := checkAll_eq_error_iff cs
    rw [checkAll, reachedAll]
    cases h : e.check facts c with
    | error other => simp only [← hc, h]
    | ok b =>
      rw [h] at hc
      cases b with
      | true => simp only [List.mem_append, or_and_right, exists_or, ← hc, ← hcs]; simp
      | false => simp [← hc]

theorem checkAny_eq_error_iff {err : EvaluationError} : (cs : List Condition) →
    (e.checkAny facts cs = .error err ↔
      ∃ leaf ∈ e.reachedAny facts cs, e.compare facts leaf = .error err)
  | [] => by simp [checkAny, reachedAny]
  | c :: cs => by
    have hc : e.check facts c = .error err ↔ _ := check_eq_error_iff c
    have hcs : e.checkAny facts cs = .error err ↔ _ := checkAny_eq_error_iff cs
    rw [checkAny, reachedAny]
    cases h : e.check facts c with
    | error other => simp only [← hc, h]
    | ok b =>
      rw [h] at hc
      cases b with
      | true => simp [← hc]
      | false => simp only [List.mem_append, or_and_right, exists_or, ← hc, ← hcs]; simp
end

section
variable {e' : Engine} {facts' : Facts}

mutual
theorem check_congr : (c : Condition) →
    (∀ leaf ∈ e.reached facts c, e'.compare facts' leaf = e.compare facts leaf) →
      e'.check facts' c = e.check facts c
  | .all children, h => checkAll_congr children h
  | .any children, h => checkAny_congr children h
  | .not child, h => by rw [check, check, check_congr child h]
  | .comparison leaf, h => h leaf List.mem_cons_self

theorem checkAll_congr : (cs : List Condition) →
    (∀ leaf ∈ e.reachedAll facts cs, e'.compare facts' leaf = e.compare facts leaf) →
      e'.checkAll facts' cs = e.checkAll facts cs
  | [], _ => rfl
  | c :: cs, h => by
    rw [reachedAll] at h
    rw [checkAll, checkAll]
    split at h
    · rename_i hc
      rw [check_congr c fun leaf hl => h leaf (List.mem_append_left _ hl), hc]
      exact checkAll_congr cs fun leaf hl => h leaf (List.mem_append_right _ hl)
    · rename_i hc
      rw [check_congr c h]
      split
      · exact absurd ‹_› hc
      · rfl
      · rfl

theorem checkAny_congr : (cs : List Condition) →
    (∀ leaf ∈ e.reachedAny facts cs, e'.compare facts' leaf = e.compare facts leaf) →
      e'.checkAny facts' cs = e.checkAny facts cs
  | [], _ => rfl
  | c :: cs, h => by
    rw [reachedAny] at h
    rw [checkAny, checkAny]
    split at h
    · rename_i hc
      rw [check_congr c fun leaf hl => h leaf (List.mem_append_left _ hl), hc]
      exact checkAny_congr cs fun leaf hl => h leaf (List.mem_append_right _ hl)
    · rename_i hc
      rw [check_congr c h]
      split
      · rfl
      · exact absurd ‹_› hc
      · rfl
end
end

section
variable (e) (facts)

/-- A fact that is unknown and does not count as `null` either. -/
def Missing (name : String) : Prop := e.allowUndefinedFacts = false ∧ facts.get? name = none

/-- Why a comparison fails.  Its operator, its fact and the fact on its right side are looked up in
this order, and the first of them that is not found is the cause. -/
inductive Cause (c : Comparison) : EvaluationError → Prop where
  | operator (unknown : e.operators.get? c.operator = none) :
      Cause c (.unknownOperator c.operator)
  | fact (known : e.operators.contains c.operator) (missing : e.Missing facts c.fact) :
      Cause c (.undefinedFact c.fact)
  | reference (reference : FactReference) (known : e.operators.contains c.operator)
      (found : facts.contains c.fact) (named : c.operand = .fact reference)
      (missing : e.Missing facts reference.fact) : Cause c (.undefinedFact reference.fact)
end

theorem factValue_eq_error_iff {name : String} {path : Option String} {err : EvaluationError} :
    e.factValue facts name path = .error err ↔
      e.Missing facts name ∧ err = .undefinedFact name := by
  unfold factValue Facts.resolve? Missing
  cases facts.get? name with
  | some v => simp
  | none => cases e.allowUndefinedFacts <;> simp [eq_comm]

theorem operandValue_eq_error_iff {operand : Operand} {err : EvaluationError} :
    e.operandValue facts operand = .error err ↔
      ∃ reference, operand = .fact reference ∧ e.Missing facts reference.fact ∧
        err = .undefinedFact reference.fact := by
  cases operand with
  | literal v => simp [operandValue]
  | fact reference => simp [operandValue, factValue_eq_error_iff]

theorem contains_of_factValue {name : String} {path : Option String} {v : Value}
    (h : e.factValue facts name path = .ok v) (hs : e.allowUndefinedFacts = false) :
    facts.contains name := by
  cases hget : facts.get? name with
  | some w => exact Table.contains_iff.mpr ⟨w, hget⟩
  | none =>
    rw [factValue_eq_error_iff.mpr ⟨⟨hs, hget⟩, rfl⟩] at h
    cases h

theorem compare_eq_error_iff {c : Comparison} {err : EvaluationError} :
    e.compare facts c = .error err ↔ e.Cause facts c err := by
  unfold compare
  cases hop : e.operators.get? c.operator with
  | none =>
    have hunknown : ¬ e.operators.contains c.operator := Table.not_contains_iff.mpr hop
    constructor
    · intro h
      cases h
      exact .operator hop
    · intro h
      cases h with
      | operator => rfl
      | fact known => exact absurd known hunknown
      | reference _ known => exact absurd known hunknown
  | some op =>
    have hknown : e.operators.contains c.operator := Table.contains_iff.mpr ⟨op, hop⟩
    simp only [bind_eq_error, pure_ne_error, and_false, exists_false, or_false,
      factValue_eq_error_iff, operandValue_eq_error_iff]
    constructor
    · rintro (⟨missing, rfl⟩ | ⟨v, hv, reference, named, missing, rfl⟩)
      · exact .fact hknown missing
      · exact .reference reference hknown (contains_of_factValue hv missing.1) named missing
    · intro h
      cases h with
      | operator unknown => rw [unknown] at hop; cases hop
      | fact _ missing => exact Or.inl ⟨missing, rfl⟩
      | reference reference _ found named missing =>
        obtain ⟨v, hv⟩ := exists_factValue (e := e) found c.path
        exact Or.inr ⟨v, hv, reference, named, missing, rfl⟩

theorem compare_eq_unknownOperator_iff {c : Comparison} {name : String} :
    e.compare facts c = .error (.unknownOperator name) ↔
      e.operators.get? name = none ∧ c.operator = name := by
  rw [compare_eq_error_iff]
  constructor
  · rintro ⟨unknown⟩
    exact ⟨unknown, rfl⟩
  · rintro ⟨unknown, rfl⟩
    exact .operator unknown

theorem events_evaluate_of_not_fired {r : Rule} (h : e.fired? facts r = none)
    {ruleSets : List (List Rule)} {before after : List Rule}
    (hr : ruleSets.flatten = before ++ r :: after) :
    (e.evaluate facts ruleSets).events = (e.evaluate facts [before ++ after]).events := by
  have hfired : ∀ rules : List Rule, (inOrder rules).filterMap (e.fired? facts) =
      (inOrder (rules.filter fun s => (e.fired? facts s).isSome)).filterMap (e.fired? facts) := by
    intro rules
    rw [inOrder_filter, List.filterMap_filter]
    congr 1
    funext s
    cases e.fired? facts s <;> rfl
  rw [evaluate_eq, evaluate_eq, hr]
  dsimp only
  rw [hfired, hfired [before ++ after].flatten]
  simp [h]

mutual
/-- The comparisons that stand under conjunctions only. -/
def required : Condition → List Comparison
  | .all children => requiredAll children
  | .any _ | .not _ => []
  | .comparison leaf => [leaf]

def requiredAll : List Condition → List Comparison
  | [] => []
  | c :: rest => required c ++ requiredAll rest
end

mutual
/-- A condition that holds has reached what it requires. -/
theorem required_subset : (c : Condition) → e.check facts c = .ok true →
    required c ⊆ e.reached facts c
  | .all children, h => requiredAll_subset children h
  | .any _, _ | .not _, _ => List.nil_subset _
  | .comparison _, _ => fun _ h => h

theorem requiredAll_subset : (cs : List Condition) → e.checkAll facts cs = .ok true →
    requiredAll cs ⊆ e.reachedAll facts cs
  | [], _ => fun _ h => h
  | c :: cs, h => by
    rw [checkAll] at h
    split at h
    · rename_i hc
      rw [requiredAll, reachedAll, hc]
      exact List.append_subset.mpr ⟨List.subset_append_of_subset_left _ (required_subset c hc),
        List.subset_append_of_subset_right _ (requiredAll_subset cs h)⟩
    · cases h
    · cases h
end

variable (e) (facts) in
/-- A rule fails for an unknown operator exactly if it reaches a comparison by it, and then adds a
failure to a run and no event.  What it does not reach has no bearing on it, whatever the operator;
only comparisons under conjunctions alone are reached whenever the rule fires. -/
theorem unknown_operator_reached (r : Rule) :
    e.reached facts r.conditions ⊆ r.conditions.comparisons ∧
      (∀ name, e.runRule facts r = .error (.unknownOperator name) ↔
        e.operators.get? name = none ∧
          ∃ leaf ∈ e.reached facts r.conditions, leaf.operator = name) ∧
      (∀ leaf ∈ e.reached facts r.conditions, e.operators.get? leaf.operator = none →
        ∀ ruleSets before after, ruleSets.flatten = before ++ r :: after →
          (e.evaluate facts ruleSets).events = (e.evaluate facts [before ++ after]).events ∧
            ⟨r.label, .unknownOperator leaf.operator⟩ ∈ (e.evaluate facts ruleSets).failures) ∧
      (∀ operators : OperatorSet, (∀ leaf ∈ e.reached facts r.conditions,
          operators.get? leaf.operator = e.operators.get? leaf.operator) →
        ({ e with operators } : Engine).runRule facts r = e.runRule facts r) ∧
      ∀ leaf ∈ required r.conditions, e.operators.get? leaf.operator = none →
        e.runRule facts r ≠ .ok true := by
  have hiff : ∀ name, e.runRule facts r = .error (.unknownOperator name) ↔
      e.operators.get? name = none ∧
        ∃ leaf ∈ e.reached facts r.conditions, leaf.operator = name := by
    intro name
    rw [runRule, check_eq_error_iff]
    simp only [compare_eq_unknownOperator_iff]
    exact ⟨fun ⟨leaf, hl, hnone, hname⟩ => ⟨hnone, leaf, hl, hname⟩,
      fun ⟨hnone, leaf, hl, hname⟩ => ⟨leaf, hl, hnone, hname⟩⟩
  have hfails : ∀ leaf ∈ e.reached facts r.conditions, e.operators.get? leaf.operator = none →
      e.runRule facts r = .error (.unknownOperator leaf.operator) :=
    fun leaf hl hnone => (hiff _).mpr ⟨hnone, leaf, hl, rfl⟩
  refine ⟨?_, hiff, ?_, ?_, ?_⟩
  · rw [Condition.comparisons_eq_leaves]
    exact reached_subset e facts r.conditions
  · intro leaf hl hnone ruleSets before after hr
    have hrun := hfails leaf hl hnone
    constructor
    · exact events_evaluate_of_not_fired (by rw [fired?, hrun]) hr
    · rw [evaluate_eq]
      apply List.mem_filterMap.mpr
      refine ⟨r, (inOrder_perm _).mem_iff.mpr ?_, by rw [failure?, hrun]⟩
      rw [hr]
      exact List.mem_append_right _ List.mem_cons_self
  · intro operators hop
    apply check_congr
    intro leaf hl
    unfold compare
    rw [hop leaf hl]
    rfl
  · intro leaf hl hnone htrue
    have hrun := hfails leaf (required_subset r.conditions htrue hl) hnone
    rw [htrue] at hrun
    cases hrun

/-- A comparison by an operator that is none of the standard ones. -/
def startsWithT : Comparison := ⟨"permitType", "startsWith", .literal (.string "T"), none⟩

theorem get?_startsWith (f : Calendar.DateFormat) :
    (OperatorSet.standard f).get? startsWithT.operator = none := by
  rw [OperatorSet.standard, OperatorSet.get?_ofOperators]
  simp [OperatorSet.builtin, OperatorSet.custom, startsWithT]

/-- An unknown operator behind a part that holds, and as the second alternative, where a like
operator of that name changes nothing. -/
theorem unknown_operator_reached_last :
    let e := Policy.standardEngine .standard
    let last : Rule :=
      { conditions := .all [.not (.any []), .comparison startsWithT], event := {} }
    let second : Rule :=
      { conditions := .any [.all [], .comparison startsWithT], event := {} }
    let operators := e.operators.insert "startsWith" ⟨"startsWith", fun _ => true, fun _ _ => true⟩
    startsWithT ∈ e.reached .empty last.conditions ∧
      e.operators.get? startsWithT.operator = none ∧
      e.runRule .empty last = .error (.unknownOperator "startsWith") ∧
      (e.evaluate .empty [[second], [last]]).events = (e.evaluate .empty [[second]]).events ∧
      startsWithT ∈ required last.conditions ∧ e.runRule .empty last ≠ .ok true ∧
      (∀ leaf ∈ e.reached .empty second.conditions,
        operators.get? leaf.operator = e.operators.get? leaf.operator) ∧
      ({ e with operators } : Engine).runRule .empty second = e.runRule .empty second := by
  intro e last second operators
  have hreached : e.reached .empty last.conditions = [startsWithT] := rfl
  have hmem : startsWithT ∈ e.reached .empty last.conditions := hreached ▸ List.mem_cons_self
  have hnone : e.operators.get? startsWithT.operator = none := get?_startsWith .standard
  have hnothing : e.reached .empty second.conditions = [] := rfl
  have hsame : ∀ leaf ∈ e.reached .empty second.conditions,
      operators.get? leaf.operator = e.operators.get? leaf.operator := by
    rw [hnothing]
    exact nofun
  have hrequired : startsWithT ∈ required last.conditions := List.mem_cons_self
  obtain ⟨-, hiff, hevents, -, hconjunct⟩ := unknown_operator_reached e .empty last
  obtain ⟨-, -, -, hoperators, -⟩ := unknown_operator_reached e .empty second
  exact ⟨hmem, hnone, (hiff _).mpr ⟨hnone, startsWithT, hmem, rfl⟩,
    (hevents _ hmem hnone [[second], [last]] [second] [] rfl).1, hrequired,
    hconjunct _ hrequired hnone, hsame, hoperators operators hsame⟩

/-- An alternative that holds keeps the unknown operator behind it from being reached, and the rule
fires. -/
theorem unknown_operator_fires :
    ¬ (∀ (e : Engine) (facts : Facts) (r : Rule), ∀ leaf ∈ r.conditions.comparisons,
        e.operators.get? leaf.operator = none → e.runRule facts r ≠ .ok true) ∧
      (let e := Policy.standardEngine .standard
       let r : Rule :=
        { conditions := .any [.all [], .comparison startsWithT], event := { kind := "violation" } }
       startsWithT ∈ r.conditions.comparisons ∧
        e.operators.get? startsWithT.operator = none ∧
        e.evaluate .empty [[r]] = ⟨[{ kind := "violation" }], []⟩) := by
  have hmem : startsWithT ∈
      (Condition.any [.all [], .comparison startsWithT]).comparisons := by
    rw [Condition.comparisons_eq_leaves]
    exact List.mem_cons_self
  refine ⟨fun h => ?_, hmem, get?_startsWith .standard, ?_⟩
  · exact h (Policy.standardEngine .standard) .empty ⟨none, none, _, {}⟩ startsWithT hmem
      (get?_startsWith .standard) rfl
  · rw [evaluate_singleton]
    rfl

end Engine
end PermitPolicy
