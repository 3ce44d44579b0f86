import PermitPolicy.Facts.Basic
import PermitPolicy.Operator.Basic
import PermitPolicy.Rule.Codec

/-! The rule engine.  A condition is true, false or fails; rules run from the highest rank
to the lowest, those of one rank in their order, and a rule that fails fires nothing. -/

namespace PermitPolicy
open Json
set_option autoImplicit false

inductive EvaluationError where
  | unknownOperator (name : String)
  | undefinedFact (name : String)
deriving DecidableEq

def EvaluationError.message : EvaluationError → String
  | .unknownOperator name => "operator '" ++ name ++ "' is not registered"
  | .undefinedFact name => "fact '" ++ name ++ "' is not defined"

structure Failure where
  rule : String
  error : EvaluationError
deriving DecidableEq

/-- The events fired in one run and the rules that failed, both in the order of the run. -/
structure EngineRun where
  events : List Event := []
  failures : List Failure := []
deriving DecidableEq, Inhabited

structure Evaluator where
  evaluate : Facts → List (List Rule) → EngineRun

structure Engine where
  operators : OperatorSet
  /-- Whether an unknown fact counts as `null`, and is no failure. -/
  allowUndefinedFacts : Bool := false

namespace Engine

def factValue (e : Engine) (facts : Facts) (name : String) (path : Option String) :
    Except EvaluationError Value :=
  match facts.resolve? name path with
  | some v => .ok v
  | none => if e.allowUndefinedFacts then .ok .null else .error (.undefinedFact name)

def operandValue (e : Engine) (facts : Facts) : Operand → Except EvaluationError Value
  | .literal v => .ok v
  | .fact reference => e.factValue facts reference.fact reference.path

/-- Decides a comparison: its operator is looked up first, then its fact, then its value. -/
def compare (e : Engine) (facts : Facts) (c : Comparison) : Except EvaluationError Bool :=
  match e.operators.get? c.operator with
  | none => .error (.unknownOperator c.operator)
  | some op => do
    let fact ← e.factValue facts c.fact c.path
    let value ← e.operandValue facts c.operand
    return op.holds fact value

mutual
def check (e : Engine) (facts : Facts) : Condition → Except EvaluationError Bool
  | .all children => checkAll e facts children
  | .any children => checkAny e facts children
  | .not child =>
    match check e facts child with
    | .ok b => .ok (!b)
    | .error err => .error err
  | .comparison leaf => e.compare facts leaf

def checkAll (e : Engine) (facts : Facts) : List Condition → Except EvaluationError Bool
  | [] => .ok true
  | c :: rest =>
    match check e facts c with
    | .ok true => checkAll e facts rest
    | .ok false => .ok false
    | .error err => .error err

def checkAny (e : Engine) (facts : Facts) : List Condition → Except EvaluationError Bool
  | [] => .ok false
  | c :: rest =>
    match check e facts c with
    | .ok true => .ok true
    | .ok false => checkAny e facts rest
    | .error err => .error err
end

def runRule (e : Engine) (facts : Facts) (r : Rule) : Except EvaluationError Bool :=
  e.check facts r.conditions

/-- Rules from the highest rank to the lowest, those of one rank in their order. -/
def inOrder (rules : List Rule) : List Rule := rules.mergeSort fun r s => s.rank ≤ r.rank

def record (run : EngineRun) (r : Rule) : Except EvaluationError Bool → EngineRun
  | .ok true => { run with events := run.events ++ [r.event] }
  | .ok false => run
  | .error err => { run with failures := run.failures ++ [⟨r.label, err⟩] }

def evaluate (e : Engine) (facts : Facts) (ruleSets : List (List Rule)) : EngineRun :=
  (inOrder ruleSets.flatten).foldl (fun run r => record run r (e.runRule facts r)) {}

def evaluator (e : Engine) : Evaluator := ⟨e.evaluate⟩

end Engine
end PermitPolicy
