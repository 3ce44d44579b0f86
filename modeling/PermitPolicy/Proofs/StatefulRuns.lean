import PermitPolicy.Engine.Stateful
import PermitPolicy.Proofs.Rewriting

/-! Runs of an engine with a state.  If each of its operators answers like one without a state
whenever the state has an invariant, and keeps the invariant, then so does the engine: every
comparison, condition, rule, run and report comes out as without a state, and leaves a state with
the invariant for the next. -/

namespace PermitPolicy
open Json
set_option autoImplicit false

variable {S α β ε : Type} {inv : S → Prop}

/-- From every state with the invariant a computation comes to the value, and to a state with the
invariant. -/
def Gives (inv : S → Prop) (x : StateM S α) (a : α) : Prop :=
  ∀ s, inv s → (x.run s).1 = a ∧ inv (x.run s).2

namespace Gives

theorem pure (a : α) : Gives inv (Pure.pure a) a := fun _ hs => ⟨rfl, hs⟩

theorem bind {x : StateM S α} {a : α} {f : α → StateM S β} {b : β} (hx : Gives inv x a)
    (hf : Gives inv (f a) b) : Gives inv (x >>= f) b := by
  intro s hs
  obtain ⟨ha, hs'⟩ := hx s hs
  have hnext : (x >>= f).run s = (f a).run (x.run s).2 := by
    rw [← ha]
    rfl
  rw [hnext]
  exact hf _ hs'

/-- The same of computations that may fail, which end with the first failure. -/
theorem bindExcept {x : ExceptT ε (StateM S) α} {a : Except ε α}
    {f : α → ExceptT ε (StateM S) β} {g : α → Except ε β} (hx : Gives inv x.run a)
    (hf : ∀ v, Gives inv (f v).run (g v)) : Gives inv (x >>= f).run (a.bind g) := by
  rw [ExceptT.run_bind]
  apply bind hx
  cases a with
  | error err => exact pure _
  | ok v => exact hf v

theorem ok {x : StateM S α} {a : α} (hx : Gives inv x a) :
    Gives inv (liftM x : ExceptT ε (StateM S) α).run (.ok a) :=
  bind (f := fun b => Pure.pure (Except.ok b)) hx (pure _)

theorem mapM {f : α → StateM S β} {g : α → β} (h : ∀ x, Gives inv (f x) (g x)) (xs : List α) :
    Gives inv (xs.mapM f) (xs.map g) := by
  induction xs with
  | nil => exact pure _
  | cons x xs ih =>
    rw [List.mapM_cons]
    exact bind (h x) (bind ih (pure _))

theorem foldlM {xs : List α} {f : β → α → StateM S β} {g : β → α → β}
    (h : ∀ b x, Gives inv (f b x) (g b x)) (b : β) :
    Gives inv (xs.foldlM f b) (xs.foldl g b) := by
  induction xs generalizing b with
  | nil => exact pure _
  | cons x xs ih =>
    rw [List.foldlM_cons]
    exact bind (h b x) (ih _)

end Gives

/-- An operator with a state answers like one without. -/
structure StatefulOperator.Follows (inv : S → Prop) (op : StatefulOperator S) (plain : Operator) :
    Prop where
  accepts : op.accepts = plain.accepts
  evaluate : ∀ fact value, Gives inv (op.evaluate fact value) (plain.evaluate fact value)

theorem StatefulOperator.follows_ofOperator (op : Operator) : (ofOperator op).Follows inv op :=
  ⟨rfl, fun _ _ => .pure _⟩

namespace StatefulEngine

/-- An engine has the operators of another one, by name, up to the state that they keep. -/
structure Follows (inv : S → Prop) (e : StatefulEngine S) (plain : Engine) : Prop where
  allow : e.allowUndefinedFacts = plain.allowUndefinedFacts
  operators : ∀ name, Option.Rel (StatefulOperator.Follows inv) (e.operators.get? name)
    (plain.operators.get? name)

/-- Operators that are registered in pairs make engines that follow each other. -/
theorem follows_ofOperators {ι : Type} (registered : List ι) {op : ι → StatefulOperator S}
    {plain : ι → Operator} (hname : ∀ i, (op i).name = (plain i).name)
    (hop : ∀ i, (op i).Follows inv (plain i)) (allow : Bool) :
    (ofOperators (registered.map op) allow).Follows inv
      { operators := .ofOperators (registered.map plain), allowUndefinedFacts := allow } := by
  refine ⟨rfl, ?_⟩
  -- From any two sets that agree, so that the induction can go on after a registration.
  suffices h : ∀ (set : Table (StatefulOperator S)) (other : OperatorSet),
      (∀ name, Option.Rel (StatefulOperator.Follows inv) (set.get? name) (other.get? name)) →
        ∀ name, Option.Rel (StatefulOperator.Follows inv)
          (((registered.map op).foldl (fun set op => set.insert op.name op) set).get? name)
          (((registered.map plain).foldl OperatorSet.register other).get? name) from
    h .empty .empty fun _ => .none
  induction registered with
  | nil => exact fun set other h => h
  | cons i registered ih =>
    intro set other h
    apply ih
    intro name
    rw [Table.get?_insert, OperatorSet.register, Table.get?_insert, hname]
    split
    · exact .some (hop i)
    · exact h name

namespace Follows
variable {e : StatefulEngine S} {plain : Engine}

section
variable (h : e.Follows inv plain) (facts : Facts)
include h

theorem factValue (name : String) (path : Option String) :
    e.lookups.factValue facts name path = plain.factValue facts name path := by
  unfold lookups Engine.factValue
  rw [h.allow]

theorem operandValue (operand : Operand) :
    e.lookups.operandValue facts operand = plain.operandValue facts operand := by
  cases operand with
  | literal v => rfl
  | fact reference => exact h.factValue facts reference.fact reference.path

theorem compare (leaf : Comparison) :
    Gives inv (e.compare facts leaf).run (plain.compare facts leaf) := by
  unfold StatefulEngine.compare Engine.compare
  have hop := h.operators leaf.operator
  revert hop
  generalize e.operators.get? leaf.operator = found
  generalize plain.operators.get? leaf.operator = plainFound
  rintro (hop | _)
  · apply Gives.bindExcept
    · rw [h.factValue]
      exact .pure _
    intro fact
    apply Gives.bindExcept
    · rw [h.operandValue]
      exact .pure _
    intro value
    rw [Operator.holds, ← hop.accepts]
    split
    · rename_i haccepts
      rw [haccepts, Bool.true_and]
      exact (hop.evaluate fact value).ok
    · rename_i haccepts
      rw [Bool.not_eq_true] at haccepts
      rw [haccepts, Bool.false_and]
      exact .pure _
  · exact .pure _

end

mutual
theorem check (h : e.Follows inv plain) (facts : Facts) : (c : Condition) →
    Gives inv (e.check facts c).run (plain.check facts c)
  | .all children => checkAll h facts children
  | .any children => checkAny h facts children
  | .not child => by
    have hnot : plain.check facts (.not child) =
        (plain.check facts child).bind fun b => .ok !b := by
      rw [Engine.check_not]
      cases plain.check facts child <;> rfl
    rw [hnot, StatefulEngine.check]
    exact .bindExcept (check h facts child) fun b => .pure _
  | .comparison leaf => h.compare facts leaf

theorem checkAll (h : e.Follows inv plain) (facts : Facts) : (cs : List Condition) →
    Gives inv (e.checkAll facts cs).run (plain.checkAll facts cs)
  | [] => .pure _
  | c :: cs => by
    rw [Engine.checkAll_cons, StatefulEngine.checkAll]
    apply Gives.bindExcept (check h facts c)
    intro b
    cases b with
    | true => exact checkAll h facts cs
    | false => exact .pure _

theorem checkAny (h : e.Follows inv plain) (facts : Facts) : (cs : List Condition) →
    Gives inv (e.checkAny facts cs).run (plain.checkAny facts cs)
  | [] => .pure _
  | c :: cs => by
    rw [Engine.checkAny_cons, StatefulEngine.checkAny]
    apply Gives.bindExcept (check h facts c)
    intro b
    cases b with
    | true => exact .pure _
    | false => exact checkAny h facts cs
end

section
variable (h : e.Follows inv plain)
include h

theorem runRule (facts : Facts) (r : Rule) :
    Gives inv (e.runRule facts r) (plain.runRule facts r) :=
  h.check facts r.conditions

theorem evaluate (facts : Facts) (ruleSets : List (List Rule)) :
    Gives inv (e.evaluate facts ruleSets) (plain.evaluate facts ruleSets) := by
  apply Gives.foldlM
  intro run r
  exact .bind (h.runRule facts r) (.pure _)

theorem validateDocument (p : Policy) (document : Value) :
    Gives inv (e.validateDocument p document)
      ((p.withEvaluator plain.evaluator).validateDocument document) :=
  .bind (h.evaluate (p.documentFacts document) (p.ruleSets document)) (.pure _)

end

end Follows
end StatefulEngine
end PermitPolicy
