import PermitPolicy.Json.Value

/-! Rules: a tree of conditions over facts, and the event that the rule fires when the tree
holds.  `comparisons` walks the tree with a stack; `leaves` is the same list by recursion. -/

namespace PermitPolicy
open Json
set_option autoImplicit false

structure FactReference where
  fact : String
  path : Option String := none
deriving DecidableEq

inductive Operand where
  | fact (reference : FactReference)
  | literal (value : Value)
deriving DecidableEq

instance : Inhabited Operand := ⟨.literal .null⟩

structure Comparison where
  fact : String
  operator : String
  operand : Operand := .literal .null
  path : Option String := none
deriving DecidableEq, Inhabited

inductive Condition where
  | all (children : List Condition)
  | any (children : List Condition)
  | not (child : Condition)
  | comparison (leaf : Comparison)

namespace Condition

instance : Inhabited Condition := ⟨.all []⟩

mutual
/-- The comparisons of a condition from left to right. -/
def leaves : Condition → List Comparison
  | .all children => leavesOf children
  | .any children => leavesOf children
  | .not child => leaves child
  | .comparison leaf => [leaf]

def leavesOf : List Condition → List Comparison
  | [] => []
  | c :: rest => leaves c ++ leavesOf rest
end

mutual
def size : Condition → Nat
  | .all children => sizeOfAll children + 1
  | .any children => sizeOfAll children + 1
  | .not child => size child + 1
  | .comparison _ => 1

def sizeOfAll : List Condition → Nat
  | [] => 0
  | c :: rest => size c + sizeOfAll rest
end

@[simp] theorem sizeOfAll_append (cs ds : List Condition) :
    sizeOfAll (cs ++ ds) = sizeOfAll cs + sizeOfAll ds := by
  induction cs with
  | nil => simp [sizeOfAll]
  | cons c rest ih => simp [sizeOfAll, ih, Nat.add_assoc]

/-- Takes the first pending condition apart, its children before the other pending ones,
and gathers the comparisons met. -/
def gather (found : List Comparison) : (pending : List Condition) → List Comparison
  | [] => found
  | .all children :: pending => gather found (children ++ pending)
  | .any children :: pending => gather found (children ++ pending)
  | .not child :: pending => gather found (child :: pending)
  | .comparison leaf :: pending => gather (found ++ [leaf]) pending
termination_by pending => sizeOfAll pending
decreasing_by all_goals simp only [sizeOfAll, size, sizeOfAll_append]; omega

def comparisons (c : Condition) : List Comparison := gather [] [c]

end Condition

structure Event where
  kind : String := ""
  params : Option Value := none
deriving DecidableEq, Inhabited

structure Rule where
  name : Option String := none
  priority : Option Int := none
  conditions : Condition
  event : Event
deriving Inhabited

namespace Rule

def defaultPriority : Int := 1

/-- Rules of a higher rank run first. -/
def rank (r : Rule) : Int := r.priority.getD defaultPriority

/-- The name, or the kind of the event in angle brackets. -/
def label (r : Rule) : String := r.name.getD ("<" ++ r.event.kind ++ ">")

end Rule
end PermitPolicy
