import Mathlib.Data.List.Perm.Basic
import Mathlib.Logic.Relation
import PermitPolicy.Proofs.RuleDecision
import PermitPolicy.Proofs.ValueEquality

/-! Membership in arrays as an engine answers it.  Of `in` and `notIn` exactly one holds of an array
on the right, of `contains` and `doesNotContain` exactly one of an array on the left, and none of
them of anything else.  What they answer does not depend on how the elements are arranged, how often
they occur, or which of several equal values stands for another. -/

namespace PermitPolicy
open Json Calendar
set_option autoImplicit false

/-- What the operator of a name answers on a fact and a value; an unknown one answers no. -/
def OperatorSet.holds (set : OperatorSet) (name : String) (fact value : Value) : Bool :=
  ((set.get? name).map fun op => op.holds fact value).getD false

theorem OperatorSet.holds_of_get? {set : OperatorSet} {name : String} {op : Operator}
    (h : set.get? name = some op) (fact value : Value) :
    set.holds name fact value = op.holds fact value := by
  rw [holds, h]
  rfl

theorem Engine.compare_eq_holds {e : Engine} {facts : Facts} {leaf : Comparison}
    {fact value : Value} (hop : e.operators.contains leaf.operator)
    (hfact : e.factValue facts leaf.fact leaf.path = .ok fact)
    (hvalue : e.operandValue facts leaf.operand = .ok value) :
    e.compare facts leaf = .ok (e.operators.holds leaf.operator fact value) := by
  obtain ⟨op, hget⟩ := Table.contains_iff.mp hop
  rw [compare_of_values hget hfact hvalue, OperatorSet.holds_of_get? hget]

/-- One change to a list of elements that leaves what is equal to one of them: they are put in
another order, an element is repeated, or an equal one takes the place of an element. -/
inductive Rearranged : List Value → List Value → Prop where
  | reorder {xs ys : List Value} (h : xs.Perm ys) : Rearranged xs ys
  | repeated {x : Value} {xs : List Value} (h : x ∈ xs) : Rearranged xs (x :: xs)
  | replace {x y : Value} (before after : List Value) (h : equalValues x y = true) :
      Rearranged (before ++ x :: after) (before ++ y :: after)

theorem equalValues_congr_right (a : Value) {x y : Value} (h : equalValues x y = true) :
    equalValues a x = equalValues a y := by
  rw [equalValues_comm a x, equalValues_comm a y, equalValues_congr h]

section
variable (a : Value) {b c : Value} {xs ys : List Value}

theorem any_rearranged (h : Rearranged xs ys) :
    xs.any (equalValues a) = ys.any (equalValues a) := by
  cases h with
  | reorder h => exact h.any_eq
  | @repeated x xs h =>
    rw [List.any_cons]
    cases hx : equalValues a x with
    | false => rfl
    | true => exact List.any_eq_true.mpr ⟨x, h, hx⟩
  | replace before after h =>
    rw [List.any_append, List.any_append, List.any_cons, List.any_cons,
      equalValues_congr_right a h]

/-- Any number of such changes, and their undoing. -/
theorem any_of_rearrangements (h : Relation.EqvGen Rearranged xs ys) :
    xs.any (equalValues a) = ys.any (equalValues a) := by
  induction h with
  | rel _ _ h => exact any_rearranged a h
  | refl _ => rfl
  | symm _ _ _ ih => exact ih.symm
  | trans _ _ _ _ _ ih ih' => exact ih.trans ih'

theorem isElement_of_not_array (h : b.isArray = false) :
    isElement a b = false ∧ isNoElement a b = false := by
  cases b with
  | array items => cases h
  | _ => exact ⟨rfl, rfl⟩

theorem hasElement_eq_isElement (b : Value) : hasElement b a = isElement a b := by
  cases b with
  | array items =>
    unfold hasElement isElement
    simp only [equalValues_comm a]
  | _ => rfl

theorem any_of_sameItems : {xs ys : List Value} → Value.sameItems xs ys = true →
    xs.any (equalValues a) = ys.any (equalValues a)
  | [], [], _ => rfl
  | x :: xs, y :: ys, h => by
    rw [Value.sameItems, Bool.and_eq_true] at h
    rw [List.any_cons, List.any_cons, equalValues_congr_right a (equalValues_of_same h.1),
      any_of_sameItems h.2]

theorem isElement_congr_right (h : equalValues b c = true) : isElement a b = isElement a c := by
  cases b with
  | array xs =>
    cases c with
    | array ys => exact any_of_sameItems a h
    | _ => cases h
  | _ =>
    cases c with
    | array ys => cases h
    | _ => rfl

end

theorem isElement_congr_left {a b : Value} (h : equalValues a b = true) (array : Value) :
    isElement a array = isElement b array := by
  cases array with
  | array items =>
    unfold isElement
    simp only [equalValues_congr h]
  | _ => rfl

namespace OperatorSet
variable (f : DateFormat) (a b : Value)

theorem holds_standard {op : Operator} (h : op ∈ builtin) :
    (standard f).holds op.name a b = op.holds a b :=
  holds_of_get? (get?_standard (List.mem_append_left _ h)) a b

theorem holds_equal : (standard f).holds "equal" a b = equalValues a b :=
  holds_standard f a b (show ⟨"equal", anyValue, equalValues⟩ ∈ builtin by simp [builtin])

theorem holds_notEqual : (standard f).holds "notEqual" a b = !equalValues a b :=
  holds_standard f a b
    (show ⟨"notEqual", anyValue, fun a b => !equalValues a b⟩ ∈ builtin by simp [builtin])

theorem holds_in : (standard f).holds "in" a b = isElement a b :=
  holds_standard f a b (show ⟨"in", anyValue, isElement⟩ ∈ builtin by simp [builtin])

theorem holds_notIn : (standard f).holds "notIn" a b = isNoElement a b :=
  holds_standard f a b (show ⟨"notIn", anyValue, isNoElement⟩ ∈ builtin by simp [builtin])

theorem holds_contains : (standard f).holds "contains" a b = isElement b a := by
  have hop : (standard f).holds "contains" a b = (a.isArray && hasElement a b) :=
    holds_standard f a b (show ⟨"contains", Value.isArray, hasElement⟩ ∈ builtin by simp [builtin])
  rw [hop, hasElement_eq_isElement]
  cases a <;> rfl

theorem holds_doesNotContain :
    (standard f).holds "doesNotContain" a b = (a.isArray && !isElement b a) := by
  have hop : (standard f).holds "doesNotContain" a b = (a.isArray && !hasElement a b) :=
    holds_standard f a b
      (show ⟨"doesNotContain", Value.isArray, fun a b => !hasElement a b⟩ ∈ builtin by
        simp [builtin])
  rw [hop, hasElement_eq_isElement]

theorem contains_standard {name : String} (h : name ∈ builtin.map Operator.name) :
    (standard f).contains name := by
  obtain ⟨op, hop, rfl⟩ := List.mem_map.mp h
  exact Table.contains_iff.mpr ⟨op, get?_standard (List.mem_append_left _ hop)⟩

end OperatorSet

/-- What an engine with the standard operators answers on equality and membership: `equal` is an
equivalence, of numbers by the doubles nearest to them and of all else by structure, each negative
operator is the complement of its positive one on arrays and neither holds of anything else, the two
directions of membership agree, and no rearrangement and no exchange of equal values matters. -/
theorem equality_and_membership (f : DateFormat) :
    let holds := (OperatorSet.standard f).holds
    (∀ e : Engine, e.operators = .standard f → ∀ facts leaf a b,
        leaf.operator ∈ OperatorSet.builtin.map Operator.name →
          e.factValue facts leaf.fact leaf.path = .ok a →
            e.operandValue facts leaf.operand = .ok b →
              e.compare facts leaf = .ok (holds leaf.operator a b)) ∧
      Equivalence (fun a b => holds "equal" a b = true) ∧
      (∀ m n, holds "equal" (.number m) (.number n) = (m.units == n.units)) ∧
      (∀ a b, a.isNumber = false ∨ b.isNumber = false → holds "equal" a b = a.same b) ∧
      (∀ a b, holds "notEqual" a b = !holds "equal" a b) ∧
      (∀ a xs, holds "in" a (.array xs) = true ↔ ∃ x ∈ xs, holds "equal" a x = true) ∧
      (∀ a xs, holds "notIn" a (.array xs) = !holds "in" a (.array xs)) ∧
      (∀ a b, b.isArray = false → holds "in" a b = false ∧ holds "notIn" a b = false) ∧
      (∀ xs b, holds "doesNotContain" (.array xs) b = !holds "contains" (.array xs) b) ∧
      (∀ a b, a.isArray = false →
        holds "contains" a b = false ∧ holds "doesNotContain" a b = false) ∧
      (∀ a b, holds "contains" a b = holds "in" b a) ∧
      (∀ a xs ys, Relation.EqvGen Rearranged xs ys →
        holds "in" a (.array xs) = holds "in" a (.array ys) ∧
          holds "contains" (.array xs) a = holds "contains" (.array ys) a) ∧
      ∀ a a' b b', holds "equal" a a' = true → holds "equal" b b' = true →
        holds "in" a b = holds "in" a' b' ∧ holds "contains" a b = holds "contains" a' b' := by
  intro holds
  have hequal : ∀ a b, holds "equal" a b = equalValues a b := OperatorSet.holds_equal f
  have hin : ∀ a b, holds "in" a b = isElement a b := OperatorSet.holds_in f
  have hnotIn : ∀ a b, holds "notIn" a b = isNoElement a b := OperatorSet.holds_notIn f
  have hcontains : ∀ a b, holds "contains" a b = isElement b a := OperatorSet.holds_contains f
  have hlacks : ∀ a b, holds "doesNotContain" a b = (a.isArray && !isElement b a) :=
    OperatorSet.holds_doesNotContain f
  simp only [hequal, hin, hnotIn, hcontains, hlacks]
  refine ⟨?_, ?_, equalValues_numbers, ?_, OperatorSet.holds_notEqual f, ?_, ?_, ?_, ?_, ?_, ?_, ?_,
    ?_⟩
  · rintro e he facts leaf a b hop hfact hvalue
    rw [Engine.compare_eq_holds (he ▸ OperatorSet.contains_standard f hop) hfact hvalue, he]
  · exact ⟨equalValues_refl, fun h => by rwa [equalValues_comm], equalValues_trans⟩
  · intro a b h
    exact equalValues_of_not_numbers h
  · intro a xs
    exact List.any_eq_true
  · intro a xs
    rfl
  · intro a b h
    exact isElement_of_not_array a h
  · intro xs b
    rfl
  · intro a b h
    rw [h, (isElement_of_not_array b h).1]
    exact ⟨rfl, rfl⟩
  · intro a b
    trivial
  · intro a xs ys h
    have hany := any_of_rearrangements a h
    exact ⟨hany, hany⟩
  · intro a a' b b' ha hb
    exact ⟨(isElement_congr_left ha b).trans (isElement_congr_right a' hb),
      (isElement_congr_left hb a).trans (isElement_congr_right b' ha)⟩

/-- Whole numbers that one double is nearest to, in an array in two arrangements, and values of
which neither is a number or an array. -/
theorem equality_and_membership_large_numbers :
    let e := Policy.standardEngine .standard
    let holds := (OperatorSet.standard .standard).holds
    let xs : List Value := [.int 9007199254740993, .null]
    let ys : List Value := [.null, .int 9007199254740992, .null]
    let facts : Facts := Table.empty.insert "axles" (.array xs)
    let leaf : Comparison := ⟨"axles", "contains", .literal (.int 9007199254740992), none⟩
    Relation.EqvGen Rearranged xs ys ∧ e.compare facts leaf = .ok true ∧
      holds "in" .null (.array xs) = holds "in" .null (.array ys) ∧
      holds "in" (.int 9007199254740993) (.array ys) = true ∧
      holds "doesNotContain" (.array ys) .null = false ∧ holds "equal" .null (.string "") = false ∧
      holds "equal" (.int 1) (.int 2) = false ∧ holds "notEqual" (.int 1) (.int 2) = true ∧
      holds "notIn" .null .null = false ∧ holds "doesNotContain" .null .null = false := by
  intro e holds xs ys facts leaf
  obtain ⟨hcompare, hequivalence, hnumbers, hothers, hnotEqual, hin, -, hnotIn, hlacks,
    hnotContains, hcontains, hrearranged, hexchange⟩ := equality_and_membership .standard
  have hunits : (Number.int 9007199254740993).units = (Number.int 9007199254740992).units := by
    decide +kernel
  have hequal : holds "equal" (.int 9007199254740992) (.int 9007199254740993) = true :=
    (hnumbers _ _).trans (beq_iff_eq.mpr hunits.symm)
  have hdiffers : holds "equal" (.int 1) (.int 2) = false :=
    (hnumbers _ _).trans (by decide +kernel)
  have hxs : Relation.EqvGen Rearranged xs ys := by
    have hreplace : Rearranged xs [.int 9007199254740992, .null] :=
      .replace [] [.null] (beq_iff_eq.mpr hunits)
    exact .trans _ _ _ (.rel _ _ hreplace) (.rel _ _ (.repeated (by simp)))
  have hmember : holds "contains" (.array xs) (.int 9007199254740992) = true :=
    (hcontains _ _).trans ((hin _ _).mpr ⟨_, List.mem_cons_self, hequal⟩)
  have hnull : holds "contains" (.array ys) .null = true :=
    (hcontains _ _).trans ((hin _ _).mpr ⟨.null, List.mem_cons_self, rfl⟩)
  have hcompared : e.compare facts leaf =
      .ok (holds "contains" (.array xs) (.int 9007199254740992)) :=
    hcompare e rfl facts leaf _ _ (by decide) rfl rfl
  have hexchanged : holds "in" (.int 9007199254740992) (.array ys) =
      holds "in" (.int 9007199254740993) (.array ys) :=
    (hexchange _ _ _ _ hequal (hequivalence.refl _)).1
  refine ⟨hxs, by rw [hcompared, hmember], (hrearranged .null xs ys hxs).1, ?_, ?_,
    hothers .null (.string "") (.inl rfl), hdiffers, ?_, (hnotIn .null .null rfl).2,
    (hnotContains .null .null rfl).2⟩
  · have hfirst : holds "in" (.int 9007199254740992) (.array ys) = true :=
      (hrearranged _ xs ys hxs).1.symm.trans ((hcontains _ _).symm.trans hmember)
    exact hexchanged.symm.trans hfirst
  · exact (hlacks ys .null).trans (congrArg (!·) hnull)
  · exact (hnotEqual _ _).trans (congrArg (!·) hdiffers)

end PermitPolicy
