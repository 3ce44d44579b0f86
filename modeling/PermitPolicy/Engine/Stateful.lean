import PermitPolicy.Policy

/-! Engines whose operators keep a state from one comparison to the next, as the operator for
patterns keeps what it has compiled.  Conditions are decided like by an engine without a state; the
state is passed on also from a comparison that fails. -/

namespace PermitPolicy
open Json Calendar
set_option autoImplicit false

/-- An operator whose answers may depend on a state and change it. -/
structure StatefulOperator (S : Type) where
  name : String
  accepts : Value → Bool
  evaluate : (fact value : Value) → StateM S Bool

namespace StatefulOperator
variable {S M : Type}

def ofOperator (op : Operator) : StatefulOperator S where
  name := op.name
  accepts := op.accepts
  evaluate fact value := return op.evaluate fact value

def patterns (compile : String → Option M) (isMatch : M → String → Bool) :
    StatefulOperator (PatternCache M) where
  name := "regex"
  accepts := Value.isString
  evaluate fact value := fun cache => cache.evaluate compile isMatch fact value

end StatefulOperator

structure StatefulEngine (S : Type) where
  operators : Table (StatefulOperator S)
  allowUndefinedFacts : Bool := false

namespace StatefulEngine
variable {S : Type}

def ofOperators (ops : List (StatefulOperator S)) (allowUndefinedFacts : Bool) :
    StatefulEngine S where
  operators := ops.foldl (fun set op => set.insert op.name op) .empty
  allowUndefinedFacts := allowUndefinedFacts

/-- The engine as far as it looks up facts. -/
def lookups (e : StatefulEngine S) : Engine :=
  { operators := .empty, allowUndefinedFacts := e.allowUndefinedFacts }

abbrev Deciding (S : Type) := ExceptT EvaluationError (StateM S)

def compare (e : StatefulEngine S) (facts : Facts) (c : Comparison) : Deciding S Bool :=
  match e.operators.get? c.operator with
  | none => throw (.unknownOperator c.operator)
  | some op => do
    let fact ← e.lookups.factValue facts c.fact c.path
    let value ← e.lookups.operandValue facts c.operand
    if op.accepts fact then op.evaluate fact value else return false

mutual
def check (e : StatefulEngine S) (facts : Facts) : Condition → Deciding S Bool
  | .all children => checkAll e facts children
  | .any children => checkAny e facts children
  | .not child => do return !(← check e facts child)
  | .comparison leaf => e.compare facts leaf

def checkAll (e : StatefulEngine S) (facts : Facts) : List Condition → Deciding S Bool
  | [] => return true
  | c :: rest => do if ← check e facts c then checkAll e facts rest else return false

def checkAny (e : StatefulEngine S) (facts : Facts) : List Condition → Deciding S Bool
  | [] => return false
  | c :: rest => do if ← check e facts c then return true else checkAny e facts rest
end

def runRule (e : StatefulEngine S) (facts : Facts) (r : Rule) :
    StateM S (Except EvaluationError Bool) :=
  (e.check facts r.conditions).run

def evaluate (e : StatefulEngine S) (facts : Facts) (ruleSets : List (List Rule)) :
    StateM S EngineRun :=
  (Engine.inOrder ruleSets.flatten).foldlM
    (fun run r => return Engine.record run r (← e.runRule facts r)) {}

/-- Validates a document against a policy that has the engine for its evaluator. -/
def validateDocument (e : StatefulEngine S) (p : Policy) (document : Value) : StateM S Report := do
  let run ← e.evaluate (p.documentFacts document) (p.ruleSets document)
  return (p.withEvaluator ⟨fun _ _ => run⟩).validateDocument document

end StatefulEngine
end PermitPolicy
