import Mathlib.Data.List.Forall2
import PermitPolicy.Proofs.Reached

/-! The outcome of a rule by those of its comparisons.  If none of them fails, the rule has the
classical truth of its conditions.  If the rule fails, one of them fails in the same way.  And if
the rule is decided, those that would fail have had no part in it: any others may stand in their
places. -/

namespace PermitPolicy
open Json
set_option autoImplicit false

namespace Condition

/-- Conditions of one shape with related comparisons, place by place. -/
inductive Alike (R : Comparison → Comparison → Prop) : Condition → Condition → Prop where
  | all {cs ds : List Condition} (h : List.Forall₂ (Alike R) cs ds) : Alike R (.all cs) (.all ds)
  | any {cs ds : List Condition} (h : List.Forall₂ (Alike R) cs ds) : Alike R (.any cs) (.any ds)
  | not {c d : Condition} (h : Alike R c d) : Alike R (.not c) (.not d)
  | comparison {leaf other : Comparison} (h : R leaf other) :
      Alike R (.comparison leaf) (.comparison other)

end Condition

namespace Engine
open Condition

section
variable (e : Engine) (facts : Facts)

/-- A comparison that is decided stays; one that fails may give way to any other. -/
def Spares (leaf other : Comparison) : Prop :=
  (∃ b, e.compare facts leaf = .ok b) → other = leaf

end

variable {e : Engine} {facts : Facts}

mutual
theorem check_of_alike : (c : Condition) → {d : Condition} → Alike (e.Spares facts) c d →
    ∀ {b}, e.check facts c = .ok b → e.check facts d = .ok b
  | .all children, _, .all h, _, hb => checkAll_of_alike children h hb
  | .any children, _, .any h, _, hb => checkAny_of_alike children h hb
  | .not child, .not d, .not h, b, hb => by
    rw [check] at hb ⊢
    cases hc : e.check facts child with
    | error err => rw [hc] at hb; cases hb
    | ok a =>
      rw [hc] at hb
      rw [check_of_alike child h hc]
      exact hb
  | .comparison leaf, _, .comparison h, b, hb => by
    obtain rfl := h ⟨b, hb⟩
    exact hb

theorem checkAll_of_alike : (cs : List Condition) → {ds : List Condition} →
    List.Forall₂ (Alike (e.Spares facts)) cs ds →
      ∀ {b}, e.checkAll facts cs = .ok b → e.checkAll facts ds = .ok b
  | [], _, .nil, _, hb => hb
  | c :: cs, _, .cons hc hcs, _, hb => by
    rw [checkAll] at hb ⊢
    cases h : e.check facts c with
    | error err => rw [h] at hb; cases hb
    | ok a =>
      rw [h] at hb
      rw [check_of_alike c hc h]
      cases a with
      | true => exact checkAll_of_alike cs hcs hb
      | false => exact hb

theorem checkAny_of_alike : (cs : List Condition) → {ds : List Condition} →
    List.Forall₂ (Alike (e.Spares facts)) cs ds →
      ∀ {b}, e.checkAny facts cs = .ok b → e.checkAny facts ds = .ok b
  | [], _, .nil, _, hb => hb
  | c :: cs, _, .cons hc hcs, _, hb => by
    rw [checkAny] at hb ⊢
    cases h : e.check facts c with
    | error err => rw [h] at hb; cases hb
    | ok a =>
      rw [h] at hb
      rw [check_of_alike c hc h]
      cases a with
      | true => exact hb
      | false => exact checkAny_of_alike cs hcs hb
end

/-- A rule whose comparisons are all decided has the truth of its conditions; a rule that fails does
so for the cause of one of its comparisons; and a decided rule does not rest on those that fail. -/
theorem rule_outcome (e : Engine) (facts : Facts) (r : Rule) :
    ((∀ leaf ∈ r.conditions.comparisons, ∃ b, e.compare facts leaf = .ok b) →
        e.runRule facts r = .ok (r.conditions.truth (e.answer facts))) ∧
      (∀ err, e.runRule facts r = .error err →
        ∃ leaf ∈ r.conditions.comparisons, e.compare facts leaf = .error err ∧
          e.Cause facts leaf err) ∧
      (∀ leaf err, e.compare facts leaf = .error err ↔ e.Cause facts leaf err) ∧
      ∀ b, e.runRule facts r = .ok b → ∀ c, Alike (e.Spares facts) r.conditions c →
        e.runRule facts { r with conditions := c } = .ok b := by
  rw [Condition.comparisons_eq_leaves]
  refine ⟨?_, ?_, ?_, ?_⟩
  · intro h
    exact check_eq_truth r.conditions fun leaf hl => compare_eq_answer (h leaf hl)
  · intro err herr
    obtain ⟨leaf, hl, hleaf⟩ := (check_eq_error_iff r.conditions).mp herr
    exact ⟨leaf, reached_subset e facts r.conditions hl, hleaf, compare_eq_error_iff.mp hleaf⟩
  · intro leaf err
    exact compare_eq_error_iff
  · intro b hb c hc
    exact check_of_alike r.conditions hc hb

/-- A rule without a comparison that fails, one that fails for the fact on a right side, and one
whose second alternative fails but is not needed. -/
theorem rule_outcome_unknown_alternative :
    let e := Policy.standardEngine .standard
    let facts : Facts := Table.empty.insert "permitType" (.string "TROS")
    let tros : Comparison := ⟨"permitType", "equal", .literal (.string "TROS"), none⟩
    let axles : Comparison := ⟨"permitType", "equal", .fact ⟨"axles", none⟩, none⟩
    let decided : Rule :=
      { conditions := .any [.not (.comparison tros), .all [.comparison tros]], event := {} }
    let fails : Rule :=
      { conditions := .not (.all [.comparison tros, .comparison axles]), event := {} }
    let either : Rule :=
      { conditions := .any [.comparison tros, .comparison startsWithT], event := {} }
    let other : Condition := .any [.comparison tros, .comparison axles]
    (∀ leaf ∈ decided.conditions.comparisons, ∃ b, e.compare facts leaf = .ok b) ∧
      e.runRule facts decided = .ok true ∧
      e.runRule facts fails = .error (.undefinedFact "axles") ∧
      (∃ leaf ∈ fails.conditions.comparisons, e.Cause facts leaf (.undefinedFact "axles")) ∧
      e.Cause facts startsWithT (.unknownOperator "startsWith") ∧
      e.runRule facts either = .ok true ∧ Alike (e.Spares facts) either.conditions other ∧
      e.runRule facts { either with conditions := other } = .ok true := by
  intro e facts tros axles decided fails either other
  have htros : e.compare facts tros = .ok true := rfl
  have hdecided : ∀ leaf ∈ decided.conditions.comparisons, ∃ b, e.compare facts leaf = .ok b := by
    rw [Condition.comparisons_eq_leaves]
    intro leaf hl
    obtain rfl : leaf = tros := by simpa [decided, leaves, leavesOf] using hl
    exact ⟨true, htros⟩
  have hfails : e.runRule facts fails = .error (.undefinedFact "axles") := rfl
  have heither : e.runRule facts either = .ok true := rfl
  have hstartsWith : e.compare facts startsWithT = .error (.unknownOperator "startsWith") := rfl
  have halike : Alike (e.Spares facts) either.conditions other := by
    refine .any (.cons (.comparison fun _ => rfl) (.cons (.comparison ?_) .nil))
    rintro ⟨b, hb⟩
    rw [hstartsWith] at hb
    cases hb
  obtain ⟨htruth, -, -, -⟩ := rule_outcome e facts decided
  obtain ⟨-, hcause, -, -⟩ := rule_outcome e facts fails
  obtain ⟨-, -, hiff, hkept⟩ := rule_outcome e facts either
  obtain ⟨leaf, hl, -, hleaf⟩ := hcause _ hfails
  exact ⟨hdecided, htruth hdecided, hfails, ⟨leaf, hl, hleaf⟩, (hiff _ _).mp hstartsWith, heither,
    halike, hkept true heither other halike⟩

end Engine
end PermitPolicy
