import PermitPolicy.Basic
import PermitPolicy.Json.Reader
import PermitPolicy.Text.Numeral

/-! Facts: values by name, which the conditions of rules refer to, and paths into a value, such as
`$.axles[0].weight`.  A path text is cut at its dots and each piece at its brackets; empty pieces
are skipped, and an index that is no number makes the path lead nowhere. -/

namespace PermitPolicy
open Json
set_option autoImplicit false

def largestIndex : Nat := twoPow 64 - 1

namespace Path

/-- The steps of one piece of a path: a key if it does not begin with a bracket, and then
indices. -/
def pieceSteps (piece : List Char) : Option (List PathStep) := do
  let (key, indices) := piece.span (· ≠ '[')
  let words := Text.words (fun c => c = '[' || c = ']') indices
  let steps ← words.mapM fun w =>
    (Text.parseNat? largestIndex (Text.trimChars w)).map PathStep.index
  return if key.isEmpty then steps else .key (String.ofList key) :: steps

/-- The steps of a path, blanks around it and one dollar sign in front apart. -/
def steps? (path : String) : Option (List PathStep) := do
  let cs := match Text.trimChars path.toList with
    | '$' :: rest => rest
    | cs => cs
  let pieces := Text.words (· = '.') cs
  return (← pieces.mapM pieceSteps).flatten

def step? (v : Value) : PathStep → Option Value
  | .key name => v.get? name
  | .index i => v.at? i

def follow? (v : Value) : List PathStep → Option Value
  | [] => some v
  | s :: rest => (step? v s).bind fun w => follow? w rest

def select? (v : Value) (path : String) : Option Value := (steps? path).bind (follow? v)

end Path

abbrev Facts := Table Value

namespace Facts

/-- A fact, or what a path selects in it; a path that selects nothing gives `null`, so only
an unknown fact has no value. -/
def resolve? (facts : Facts) (name : String) (path : Option String) : Option Value :=
  (facts.get? name).map fun v =>
    match path with
    | some p => (Path.select? v p).getD .null
    | none => v

end Facts

namespace Json.Value

def truthy : Value → Bool
  | .null => false
  | .bool b => b
  | .number n => n.units ≠ 0
  | .string s => !s.isEmpty
  | .array _ | .object _ => true

end Json.Value
end PermitPolicy
