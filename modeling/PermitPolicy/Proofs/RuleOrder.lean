import PermitPolicy.Engine

/-! The order in which rules run and what each of them contributes.  Priorities and the order
within each priority determine the run: one rule never bears on the contribution of another. -/

namespace PermitPolicy
set_option autoImplicit false

/-- The rules of one priority, which is one for a rule that gives none. -/
def ofPriority (k : Int) (rules : List Rule) : List Rule :=
  rules.filter fun r => r.priority.getD 1 = k

def Descending (rules : List Rule) : Prop :=
  rules.Pairwise fun r s => s.priority.getD 1 ≤ r.priority.getD 1

/-- Priorities descend, and the rules of one priority stand as they do in `rules`. -/
structure InPriorityOrder (rules ordered : List Rule) : Prop where
  descending : Descending ordered
  stable : ∀ k, ofPriority k ordered = ofPriority k rules

theorem mem_ofPriority {k : Int} {r : Rule} {rules : List Rule} :
    r ∈ ofPriority k rules ↔ r ∈ rules ∧ r.priority.getD 1 = k := by
  simp [ofPriority]

theorem Descending.priority_le {r s : Rule} {rules : List Rule} (h : Descending (r :: rules))
    (hs : s ∈ r :: rules) : s.priority.getD 1 ≤ r.priority.getD 1 := by
  rcases List.mem_cons.mp hs with rfl | hs
  · exact Int.le_refl _
  · exact (List.pairwise_cons.mp h).1 s hs

theorem mem_of_ofPriority_eq {r : Rule} {rules others : List Rule}
    (h : ∀ k, ofPriority k (r :: rules) = ofPriority k others) : r ∈ others := by
  have hr : r ∈ ofPriority (r.priority.getD 1) (r :: rules) :=
    mem_ofPriority.mpr ⟨List.mem_cons_self, rfl⟩
  rw [h] at hr
  exact (mem_ofPriority.mp hr).1

/-- Descending priorities leave only the order within each priority open. -/
theorem eq_of_descending {rules others : List Rule} (hr : Descending rules)
    (ho : Descending others) (h : ∀ k, ofPriority k rules = ofPriority k others) :
    rules = others := by
  induction rules generalizing others with
  | nil =>
    cases others with
    | nil => rfl
    | cons s others => exact absurd (mem_of_ofPriority_eq fun k => (h k).symm) List.not_mem_nil
  | cons r rules ih =>
    cases others with
    | nil => exact absurd (mem_of_ofPriority_eq h) List.not_mem_nil
    | cons s others =>
      have hrs := ho.priority_le (mem_of_ofPriority_eq h)
      have hsr := hr.priority_le (mem_of_ofPriority_eq fun k => (h k).symm)
      have he : r.priority.getD 1 = s.priority.getD 1 := Int.le_antisymm hrs hsr
      have hheads := h (r.priority.getD 1)
      simp only [ofPriority, List.filter_cons, he, decide_true, if_true] at hheads
      obtain ⟨rfl, _⟩ := List.cons.inj hheads
      have htails : rules = others := by
        apply ih (List.pairwise_cons.mp hr).2 (List.pairwise_cons.mp ho).2
        intro k
        have hk := h k
        simp only [ofPriority, List.filter_cons] at hk ⊢
        split at hk
        · exact (List.cons.inj hk).2
        · exact hk
      rw [htails]

theorem InPriorityOrder.unique {rules ordered others : List Rule}
    (h : InPriorityOrder rules ordered) (h' : InPriorityOrder rules others) : ordered = others :=
  eq_of_descending h.descending h'.descending fun k => (h.stable k).trans (h'.stable k).symm

namespace Engine

theorem inOrder_eq (rules : List Rule) :
    inOrder rules = rules.mergeSort fun r s => s.priority.getD 1 ≤ r.priority.getD 1 := rfl

theorem inOrder_perm (rules : List Rule) : (inOrder rules).Perm rules :=
  List.mergeSort_perm _ _

theorem mem_inOrder {r : Rule} {rules : List Rule} : r ∈ inOrder rules ↔ r ∈ rules :=
  (inOrder_perm rules).mem_iff

theorem priority_trans (r s t : Rule) :
    decide (s.priority.getD 1 ≤ r.priority.getD 1) = true →
      decide (t.priority.getD 1 ≤ s.priority.getD 1) = true →
        decide (t.priority.getD 1 ≤ r.priority.getD 1) = true := by
  simp only [decide_eq_true_eq]
  omega

theorem priority_total (r s : Rule) :
    (decide (s.priority.getD 1 ≤ r.priority.getD 1) ||
      decide (r.priority.getD 1 ≤ s.priority.getD 1)) = true := by
  simp only [Bool.or_eq_true, decide_eq_true_eq]
  omega

theorem inOrder_descending (rules : List Rule) : Descending (inOrder rules) := by
  have h := List.pairwise_mergeSort priority_trans priority_total rules
  rw [← inOrder_eq] at h
  exact h.imp fun hrs => of_decide_eq_true hrs

/-- Rules of one priority are already in order, so the sort keeps them as a sublist. -/
theorem ofPriority_inOrder (k : Int) (rules : List Rule) :
    ofPriority k (inOrder rules) = ofPriority k rules := by
  have hsorted : (ofPriority k rules).Pairwise fun r s =>
      decide (s.priority.getD 1 ≤ r.priority.getD 1) = true := by
    refine List.pairwise_of_forall_mem_list ?_
    intro r hr s hs
    have hrk := (mem_ofPriority.mp hr).2
    have hsk := (mem_ofPriority.mp hs).2
    exact decide_eq_true (by omega)
  have hkept : (ofPriority k rules).Sublist (inOrder rules) :=
    List.sublist_mergeSort priority_trans priority_total hsorted List.filter_sublist
  have hself : ofPriority k (ofPriority k rules) = ofPriority k rules := by simp [ofPriority]
  have hsub : (ofPriority k rules).Sublist (ofPriority k (inOrder rules)) := by
    rw [← hself]
    exact hkept.filter _
  exact (hsub.eq_of_length ((inOrder_perm rules).filter _).length_eq.symm).symm

theorem inPriorityOrder_inOrder (rules : List Rule) : InPriorityOrder rules (inOrder rules) :=
  ⟨inOrder_descending rules, fun k => ofPriority_inOrder k rules⟩

theorem inPriorityOrder_iff {rules ordered : List Rule} :
    InPriorityOrder rules ordered ↔ ordered = inOrder rules := by
  constructor
  · intro h
    exact h.unique (inPriorityOrder_inOrder rules)
  · rintro rfl
    exact inPriorityOrder_inOrder rules

theorem inOrder_congr {rules others : List Rule}
    (h : ∀ k, ofPriority k rules = ofPriority k others) : inOrder rules = inOrder others := by
  apply inPriorityOrder_iff.mp
  exact ⟨inOrder_descending rules, fun k => (ofPriority_inOrder k rules).trans (h k)⟩

theorem inOrder_filter (keep : Rule → Bool) (rules : List Rule) :
    inOrder (rules.filter keep) = (inOrder rules).filter keep := by
  symm
  apply inPriorityOrder_iff.mp
  refine ⟨(inOrder_descending rules).filter _, ?_⟩
  intro k
  have h := congrArg (List.filter keep) (ofPriority_inOrder k rules)
  simpa only [ofPriority, List.filter_filter, Bool.and_comm] using h

variable (e : Engine) (facts : Facts)

def fired? (r : Rule) : Option Event :=
  match e.runRule facts r with
  | .ok true => some r.event
  | _ => none

def failure? (r : Rule) : Option Failure :=
  match e.runRule facts r with
  | .error err => some ⟨r.label, err⟩
  | .ok _ => none

theorem record_eq (run : EngineRun) (r : Rule) :
    record run r (e.runRule facts r) =
      ⟨run.events ++ (e.fired? facts r).toList,
        run.failures ++ (e.failure? facts r).toList⟩ := by
  unfold fired? failure?
  cases e.runRule facts r with
  | error err => simp [record]
  | ok b => cases b <;> simp [record]

/-- A run adds the contributions of its rules, one after the other. -/
theorem foldl_record (rules : List Rule) (run : EngineRun) :
    rules.foldl (fun run r => record run r (e.runRule facts r)) run =
      ⟨run.events ++ rules.filterMap (e.fired? facts),
        run.failures ++ rules.filterMap (e.failure? facts)⟩ := by
  induction rules generalizing run with
  | nil => simp
  | cons r rules ih =>
    rw [List.foldl_cons, record_eq, ih]
    simp only [List.append_assoc, List.filterMap_cons]
    cases e.fired? facts r <;> cases e.failure? facts r <;> rfl

theorem evaluate_eq (ruleSets : List (List Rule)) :
    e.evaluate facts ruleSets =
      ⟨(inOrder ruleSets.flatten).filterMap (e.fired? facts),
        (inOrder ruleSets.flatten).filterMap (e.failure? facts)⟩ := by
  unfold evaluate
  rw [foldl_record]
  simp only [List.nil_append]

theorem evaluate_singleton (r : Rule) :
    e.evaluate facts [[r]] = record {} r (e.runRule facts r) := by
  rw [evaluate, inOrder, List.flatten_singleton, List.mergeSort_singleton, List.foldl_cons,
    List.foldl_nil]

theorem fired?_eq_none_of_failure? {r : Rule} (h : e.failure? facts r ≠ none) :
    e.fired? facts r = none := by
  unfold failure? at h
  unfold fired?
  cases hr : e.runRule facts r with
  | error err => rfl
  | ok b => simp [hr] at h

def decided (rules : List Rule) : List Rule :=
  rules.filter fun r => (e.failure? facts r).isNone

theorem failure?_decided (rules : List Rule) :
    (e.decided facts rules).filterMap (e.failure? facts) = [] := by
  apply List.filterMap_eq_nil_iff.mpr
  intro r hr
  exact Option.isNone_iff_eq_none.mp (List.mem_filter.mp hr).2

theorem fired?_decided (rules : List Rule) :
    (e.decided facts rules).filterMap (e.fired? facts) = rules.filterMap (e.fired? facts) := by
  induction rules with
  | nil => rfl
  | cons r rules ih =>
    unfold decided at ih ⊢
    by_cases h : e.failure? facts r = none
    · simp [h, ih, List.filterMap_cons]
    · simp [h, ih, e.fired?_eq_none_of_failure? facts h]

theorem evaluate_decided (ruleSets : List (List Rule)) :
    e.evaluate facts (ruleSets.map (e.decided facts)) =
      ⟨(e.evaluate facts ruleSets).events, []⟩ := by
  have h : (ruleSets.map (e.decided facts)).flatten = e.decided facts ruleSets.flatten := by
    unfold decided
    exact (List.filter_flatten).symm
  have ho : inOrder (e.decided facts ruleSets.flatten) =
      e.decided facts (inOrder ruleSets.flatten) := inOrder_filter _ _
  simp only [evaluate_eq, h, ho, fired?_decided, failure?_decided]

/-- One list has the rules of all sets in order of priority, the greatest first, and a run is what
its rules contribute each by itself.  So the rules that fail may be left out, and the rules may be
spread over other sets in any order that keeps the rules of each priority as they stand. -/
theorem evaluate_in_priority_order (ruleSets : List (List Rule)) :
    ∃ ordered, (∀ rules, InPriorityOrder ruleSets.flatten rules ↔ rules = ordered) ∧
      ordered.Perm ruleSets.flatten ∧
      (e.evaluate facts ruleSets).events = ordered.filterMap (e.fired? facts) ∧
      (e.evaluate facts ruleSets).failures = ordered.filterMap (e.failure? facts) ∧
      e.evaluate facts (ruleSets.map (e.decided facts)) =
        ⟨(e.evaluate facts ruleSets).events, []⟩ ∧
      ∀ others : List (List Rule),
        (∀ k, ofPriority k others.flatten = ofPriority k ruleSets.flatten) →
          e.evaluate facts others = e.evaluate facts ruleSets := by
  refine ⟨inOrder ruleSets.flatten, fun rules => inPriorityOrder_iff, inOrder_perm _, ?_, ?_,
    evaluate_decided e facts ruleSets, ?_⟩
  · rw [evaluate_eq]
  · rw [evaluate_eq]
  · intro others h
    rw [evaluate_eq, evaluate_eq, inOrder_congr h]

/-- Rules of the priority that a rule has by default, one above it and one of the least, spread
over the sets in two ways. -/
theorem evaluate_in_priority_order_across_sets :
    let unknown : Condition := .comparison ⟨"x", "is", .literal .null, none⟩
    let urgent : Rule := { priority := some 2, conditions := unknown, event := { kind := "info" } }
    let plain : Rule := { conditions := .all [], event := { kind := "warning" } }
    let named : Rule :=
      { name := some "axles", priority := some 1, conditions := unknown, event := {} }
    let least : Rule := { priority := some (-2147483648), conditions := .all [], event := {} }
    let sets : List (List Rule) := [[least, plain, named], [urgent]]
    let others : List (List Rule) := [[plain, urgent], [], [least, named]]
    let e : Engine := { operators := .empty }
    (e.evaluate .empty sets).events = [plain.event, least.event] ∧
      (e.evaluate .empty sets).failures =
        [⟨"<info>", .unknownOperator "is"⟩, ⟨"axles", .unknownOperator "is"⟩] ∧
      (∀ k, ofPriority k others.flatten = ofPriority k sets.flatten) ∧
      e.evaluate .empty others = e.evaluate .empty sets := by
  intro unknown urgent plain named least sets others e
  obtain ⟨ordered, horder, -, hevents, hfailures, -, hothers⟩ :=
    evaluate_in_priority_order e .empty sets
  -- No two of these rules but `plain` and `named` have one priority.
  have hstable : ∀ {rules : List Rule}, rules = others.flatten ∨
      rules = [urgent, plain, named, least] →
        ∀ k, ofPriority k rules = ofPriority k sets.flatten := by
    intro rules hrules k
    by_cases h : 1 = k
    · subst h
      rcases hrules with rfl | rfl <;> rfl
    · by_cases h' : 2 = k
      · subst h'
        rcases hrules with rfl | rfl <;> rfl
      · rcases hrules with rfl | rfl <;>
          simp [ofPriority, List.filter_cons, sets, others, urgent, plain, named, least, h, h']
  have hdescending : Descending [urgent, plain, named, least] := by
    simp [Descending, urgent, plain, named, least]
  have hordered : [urgent, plain, named, least] = ordered :=
    (horder _).mp ⟨hdescending, hstable (.inr rfl)⟩
  refine ⟨?_, ?_, hstable (.inl rfl), hothers others (hstable (.inl rfl))⟩
  · rw [hevents, ← hordered]
    rfl
  · rw [hfailures, ← hordered]
    rfl

end Engine
end PermitPolicy
