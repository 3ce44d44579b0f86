import Mathlib.Data.List.Forall2
import Mathlib.Logic.Relation
import PermitPolicy.Proofs.Reached

/-! Laws of the combinators.  De Morgan's laws, double negation and the flattening of nested
conjunctions and disjunctions hold of an evaluation that stops early and may fail: each keeps the
answer, and where evaluation fails also the error.  So does any number of them, applied to parts of
a condition, and with them the way to negation normal form. -/

namespace PermitPolicy
open Json
set_option autoImplicit false

namespace Condition

/-- The laws of the combinators, from left to right. -/
inductive Law : Condition → Condition → Prop where
  | notAll (children : List Condition) : Law (.not (.all children)) (.any (children.map .not))
  | notAny (children : List Condition) : Law (.not (.any children)) (.all (children.map .not))
  | notNot (child : Condition) : Law (.not (.not child)) child
  | allOne (child : Condition) : Law (.all [child]) child
  | anyOne (child : Condition) : Law (.any [child]) child
  | spliceAll (before children after : List Condition) :
      Law (.all (before ++ .all children :: after)) (.all (before ++ children ++ after))
  | spliceAny (before children after : List Condition) :
      Law (.any (before ++ .any children :: after)) (.any (before ++ children ++ after))

/-- A condition with one place left open. -/
inductive Context where
  | hole
  | all (before : List Condition) (inner : Context) (after : List Condition)
  | any (before : List Condition) (inner : Context) (after : List Condition)
  | not (inner : Context)

namespace Context

def fill : Context → Condition → Condition
  | .hole, c => c
  | .all before inner after, c => .all (before ++ inner.fill c :: after)
  | .any before inner after, c => .any (before ++ inner.fill c :: after)
  | .not inner, c => .not (inner.fill c)

def around : Context → Context → Context
  | .hole, k => k
  | .all before inner after, k => .all before (inner.around k) after
  | .any before inner after, k => .any before (inner.around k) after
  | .not inner, k => .not (inner.around k)

theorem fill_around (outer inner : Context) (c : Condition) :
    (outer.around inner).fill c = outer.fill (inner.fill c) := by
  induction outer with
  | hole => rfl
  | all before _ after ih => simp only [around, fill, ih]
  | any before _ after ih => simp only [around, fill, ih]
  | not _ ih => simp only [around, fill, ih]

end Context

/-- One law applied to a part of a condition. -/
inductive Step : Condition → Condition → Prop where
  | within (k : Context) {c d : Condition} (law : Law c d) : Step (k.fill c) (k.fill d)

/-- Laws applied to parts, one after the other, all from left to right. -/
abbrev Rewrites : Condition → Condition → Prop := Relation.ReflTransGen Step

/-- Laws applied to parts, one after the other and in either direction. -/
abbrev Equivalent : Condition → Condition → Prop := Relation.EqvGen Step

namespace Rewrites
variable {c d : Condition} {cs ds : List Condition}

theorem of_law (law : Law c d) : Rewrites c d := .single (.within .hole law)

theorem within (k : Context) (h : Rewrites c d) : Rewrites (k.fill c) (k.fill d) := by
  refine Relation.ReflTransGen.lift k.fill ?_ c d h
  rintro _ _ ⟨inner, law⟩
  show Step (k.fill (inner.fill _)) (k.fill (inner.fill _))
  rw [← Context.fill_around, ← Context.fill_around]
  exact .within _ law

theorem children {join : List Condition → Condition}
    (hjoin : ∀ before after, ∃ k : Context, ∀ c, k.fill c = join (before ++ c :: after))
    (h : List.Forall₂ Rewrites cs ds) :
    ∀ before, Rewrites (join (before ++ cs)) (join (before ++ ds)) := by
  induction h with
  | nil => exact fun _ => .refl
  | @cons c d cs ds hc _ ih =>
    -- `before` holds the children that are rewritten already.
    intro before
    obtain ⟨k, hk⟩ := hjoin before cs
    have hfirst : Rewrites (join (before ++ c :: cs)) (join (before ++ d :: cs)) := by
      rw [← hk, ← hk]
      exact hc.within k
    have hrest := ih (before ++ [d])
    simp only [List.append_assoc, List.singleton_append] at hrest
    exact hfirst.trans hrest

theorem all (h : List.Forall₂ Rewrites cs ds) : Rewrites (.all cs) (.all ds) :=
  children (fun before after => ⟨.all before .hole after, fun _ => rfl⟩) h []

theorem any (h : List.Forall₂ Rewrites cs ds) : Rewrites (.any cs) (.any ds) :=
  children (fun before after => ⟨.any before .hole after, fun _ => rfl⟩) h []

theorem equivalent (h : Rewrites c d) : Equivalent c d := by
  induction h with
  | refl => exact .refl c
  | tail _ step ih => exact .trans _ _ _ ih (.rel _ _ step)

end Rewrites

mutual
/-- The condition, or its negation, with negations at comparisons only. -/
def normal : (positive : Bool) → Condition → Condition
  | true, .all children => .all (normalOf true children)
  | false, .all children => .any (normalOf false children)
  | true, .any children => .any (normalOf true children)
  | false, .any children => .all (normalOf false children)
  | positive, .not child => normal (!positive) child
  | true, .comparison leaf => .comparison leaf
  | false, .comparison leaf => .not (.comparison leaf)

def normalOf (positive : Bool) : List Condition → List Condition
  | [] => []
  | c :: rest => normal positive c :: normalOf positive rest
end

def negationNormal (c : Condition) : Condition := normal true c

/-- Nothing but comparisons is negated. -/
inductive NegationNormal : Condition → Prop where
  | all {children : List Condition} (h : ∀ c ∈ children, NegationNormal c) :
      NegationNormal (.all children)
  | any {children : List Condition} (h : ∀ c ∈ children, NegationNormal c) :
      NegationNormal (.any children)
  | negated (leaf : Comparison) : NegationNormal (.not (.comparison leaf))
  | comparison (leaf : Comparison) : NegationNormal (.comparison leaf)

mutual
theorem negationNormal_normal : (positive : Bool) → (c : Condition) →
    NegationNormal (normal positive c)
  | true, .all children => .all (negationNormal_normalOf true children)
  | false, .all children => .any (negationNormal_normalOf false children)
  | true, .any children => .any (negationNormal_normalOf true children)
  | false, .any children => .all (negationNormal_normalOf false children)
  | true, .not child => negationNormal_normal false child
  | false, .not child => negationNormal_normal true child
  | true, .comparison leaf => .comparison leaf
  | false, .comparison leaf => .negated leaf

theorem negationNormal_normalOf (positive : Bool) : (cs : List Condition) →
    ∀ c ∈ normalOf positive cs, NegationNormal c
  | [] => nofun
  | c :: cs => List.forall_mem_cons.mpr
      ⟨negationNormal_normal positive c, negationNormal_normalOf positive cs⟩
end

theorem normalOf_eq_map (positive : Bool) (cs : List Condition) :
    normalOf positive cs = cs.map (normal positive) := by
  induction cs with
  | nil => rfl
  | cons c cs ih => rw [normalOf, List.map_cons, ih]

theorem NegationNormal.normal_eq {c : Condition} (h : NegationNormal c) : normal true c = c := by
  induction h with
  | all _ ih => rw [normal, normalOf_eq_map, List.map_congr_left ih, List.map_id']
  | any _ ih => rw [normal, normalOf_eq_map, List.map_congr_left ih, List.map_id']
  | negated leaf => rfl
  | comparison leaf => rfl

/-- A condition under a sign. -/
def signed : (positive : Bool) → Condition → Condition
  | true, c => c
  | false, c => .not c

theorem map_signed_true (cs : List Condition) : cs.map (signed true) = cs :=
  List.map_id'' (fun _ => rfl) cs

mutual
theorem rewrites_normal : (positive : Bool) → (c : Condition) →
    Rewrites (signed positive c) (normal positive c)
  | true, .all children => by
    have h := rewrites_normalOf true children
    rw [map_signed_true] at h
    exact Rewrites.all h
  | false, .all children =>
    (Rewrites.of_law (.notAll children)).trans (Rewrites.any (rewrites_normalOf false children))
  | true, .any children => by
    have h := rewrites_normalOf true children
    rw [map_signed_true] at h
    exact Rewrites.any h
  | false, .any children =>
    (Rewrites.of_law (.notAny children)).trans (Rewrites.all (rewrites_normalOf false children))
  | true, .not child => rewrites_normal false child
  | false, .not child => (Rewrites.of_law (.notNot child)).trans (rewrites_normal true child)
  | true, .comparison _ => .refl
  | false, .comparison _ => .refl

theorem rewrites_normalOf (positive : Bool) : (cs : List Condition) →
    List.Forall₂ Rewrites (cs.map (signed positive)) (normalOf positive cs)
  | [] => .nil
  | c :: cs => .cons (rewrites_normal positive c) (rewrites_normalOf positive cs)
end

end Condition

namespace Engine
open Condition

variable {e : Engine} {facts : Facts}

theorem check_not (c : Condition) :
    e.check facts (.not c) = (e.check facts c).map Bool.not := by
  rw [check]
  rcases e.check facts c with err | b <;> rfl

theorem checkAll_cons (c : Condition) (cs : List Condition) :
    e.checkAll facts (c :: cs) =
      (e.check facts c).bind fun b => if b then e.checkAll facts cs else .ok false := by
  rw [checkAll]
  rcases e.check facts c with err | _ | _ <;> rfl

theorem checkAny_cons (c : Condition) (cs : List Condition) :
    e.checkAny facts (c :: cs) =
      (e.check facts c).bind fun b => if b then .ok true else e.checkAny facts cs := by
  rw [checkAny]
  rcases e.check facts c with err | _ | _ <;> rfl

theorem checkAll_append (cs ds : List Condition) :
    e.checkAll facts (cs ++ ds) =
      (e.checkAll facts cs).bind fun b => if b then e.checkAll facts ds else .ok false := by
  induction cs with
  | nil => rfl
  | cons c cs ih =>
    rw [List.cons_append, checkAll_cons, checkAll_cons, ih]
    rcases e.check facts c with err | _ | _ <;> rfl

theorem checkAny_append (cs ds : List Condition) :
    e.checkAny facts (cs ++ ds) =
      (e.checkAny facts cs).bind fun b => if b then .ok true else e.checkAny facts ds := by
  induction cs with
  | nil => rfl
  | cons c cs ih =>
    rw [List.cons_append, checkAny_cons, checkAny_cons, ih]
    rcases e.check facts c with err | _ | _ <;> rfl

/-- A conjunction of negations stops where the disjunction does. -/
theorem checkAll_map_not (cs : List Condition) :
    e.checkAll facts (cs.map .not) = (e.checkAny facts cs).map Bool.not := by
  induction cs with
  | nil => rfl
  | cons c cs ih =>
    rw [List.map_cons, checkAll, checkAny, check_not, ih]
    rcases e.check facts c with err | _ | _ <;> rfl

theorem checkAny_map_not (cs : List Condition) :
    e.checkAny facts (cs.map .not) = (e.checkAll facts cs).map Bool.not := by
  induction cs with
  | nil => rfl
  | cons c cs ih =>
    rw [List.map_cons, checkAny, checkAll, check_not, ih]
    rcases e.check facts c with err | _ | _ <;> rfl

theorem checkAll_singleton (c : Condition) : e.checkAll facts [c] = e.check facts c := by
  rw [checkAll]
  rcases e.check facts c with err | _ | _ <;> rfl

theorem checkAny_singleton (c : Condition) : e.checkAny facts [c] = e.check facts c := by
  rw [checkAny]
  rcases e.check facts c with err | _ | _ <;> rfl

theorem check_law {c d : Condition} (law : Law c d) : e.check facts d = e.check facts c := by
  cases law with
  | notAll children => rw [check_not, check, check, checkAny_map_not]
  | notAny children => rw [check_not, check, check, checkAll_map_not]
  | notNot child =>
    rw [check_not, check_not]
    rcases e.check facts d with err | _ | _ <;> rfl
  | allOne child => rw [check, checkAll_singleton]
  | anyOne child => rw [check, checkAny_singleton]
  | spliceAll before children after =>
    -- The result of `children` is examined once on either side.
    rw [check, check, List.append_assoc, checkAll_append, checkAll_append, checkAll_append,
      checkAll_cons, check]
  | spliceAny before children after =>
    rw [check, check, List.append_assoc, checkAny_append, checkAny_append, checkAny_append,
      checkAny_cons, check]

theorem check_fill {c d : Condition} (h : e.check facts d = e.check facts c) (k : Context) :
    e.check facts (k.fill d) = e.check facts (k.fill c) := by
  induction k with
  | hole => exact h
  | all before inner after ih =>
    rw [Context.fill, Context.fill, check, check, checkAll_append, checkAll_append, checkAll_cons,
      checkAll_cons, ih]
  | any before inner after ih =>
    rw [Context.fill, Context.fill, check, check, checkAny_append, checkAny_append, checkAny_cons,
      checkAny_cons, ih]
  | not inner ih => rw [Context.fill, Context.fill, check, check, ih]

theorem check_equivalent {c d : Condition} (h : Equivalent c d) :
    e.check facts d = e.check facts c := by
  induction h with
  | rel c d step =>
    obtain ⟨k, law⟩ := step
    exact check_fill (check_law law) k
  | refl => rfl
  | symm _ _ _ ih => exact ih.symm
  | trans _ _ _ _ _ first second => exact second.trans first

/-- A law keeps the result of every condition that it is applied in, be it an answer or an error,
and so do any number of laws in either direction.  From left to right they lead to negation normal
form, which leaves conditions alone that negate comparisons only. -/
theorem rewriting_keeps_result (e : Engine) (facts : Facts) :
    (∀ c d, Law c d → ∀ k : Context, e.check facts (k.fill d) = e.check facts (k.fill c)) ∧
      (∀ c d, Equivalent c d → e.check facts d = e.check facts c) ∧
      ∀ c : Condition, Rewrites c c.negationNormal ∧ NegationNormal c.negationNormal ∧
        e.check facts c.negationNormal = e.check facts c ∧
        (NegationNormal c → c.negationNormal = c) := by
  refine ⟨?_, ?_, ?_⟩
  · intro c d law k
    exact check_fill (check_law law) k
  · intro c d h
    exact check_equivalent h
  · intro c
    have h : Rewrites c c.negationNormal := rewrites_normal true c
    exact ⟨h, negationNormal_normal true c, check_equivalent h.equivalent,
      NegationNormal.normal_eq⟩

/-- The negation of a conjunction that fails at its second part, its normal form, and the same
without nesting. -/
theorem rewriting_keeps_result_nested :
    let e := Policy.standardEngine .standard
    let leaf : Condition := .comparison startsWithT
    let c : Condition := .not (.all [.not (.any []), .all [leaf, .any []]])
    let n : Condition := .any [.any [], .any [.not leaf, .all []]]
    let d : Condition := .any [.any [], .not leaf, .all []]
    let err : EvaluationError := .unknownOperator "startsWith"
    e.check .empty c = .error err ∧ c.negationNormal = n ∧ e.check .empty n = .error err ∧
      Law n d ∧ e.check .empty (.not d) = .error err ∧
      Equivalent c d ∧ e.check .empty d = .error err ∧
      NegationNormal n ∧ n.negationNormal = n := by
  intro e leaf c n d err
  have hleaf : e.compare .empty startsWithT = .error err :=
    compare_eq_unknownOperator_iff.mpr ⟨get?_startsWith .standard, rfl⟩
  have hc : e.check .empty c = .error err := by
    simp only [c, leaf, check, checkAll, checkAny, hleaf, Bool.not_false]
  have hnormal : c.negationNormal = n := rfl
  obtain ⟨hlaw, hequivalent, hnegation⟩ := rewriting_keeps_result e .empty
  obtain ⟨hrewrites, hform, hsame, -⟩ := hnegation c
  rw [hnormal] at hrewrites hform hsame
  have law : Law n d := .spliceAny [.any []] [.not leaf, .all []] []
  have hn : e.check .empty n = .error err := hsame.trans hc
  have hd : Equivalent c d := .trans _ _ _ hrewrites.equivalent (.rel _ _ (.within .hole law))
  have hnot : e.check .empty (.not n) = .error err := by rw [check, hn]
  exact ⟨hc, hnormal, hn, law, (hlaw n d law (.not .hole)).trans hnot, hd,
    (hequivalent c d hd).trans hc, hform, (hnegation n).2.2.2 hform⟩

end Engine
end PermitPolicy
