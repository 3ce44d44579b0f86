import PermitPolicy.Rule.Codec

/-! Validation reports: the payloads of the events fired, by kind and in the order fired.
An event of no known kind is a violation. -/

namespace PermitPolicy
open Json
set_option autoImplicit false

inductive EventKind where
  | violation | requirement | warning | information
deriving DecidableEq, Inhabited

namespace EventKind

def label : EventKind → String
  | .violation => "violation"
  | .requirement => "requirement"
  | .warning => "warning"
  | .information => "information"

def all : List EventKind := [.violation, .requirement, .warning, .information]

/-- The kind that a text names exactly, and a violation otherwise. -/
def classify (kind : String) : EventKind :=
  if kind = "requirement" then .requirement
  else if kind = "warning" then .warning
  else if kind = "information" then .information
  else .violation

def named (name : String) : Except DecodeError EventKind :=
  match all.find? fun k => k.label = name with
  | some k => .ok k
  | none => .error (.unknownVariant name (all.map label))

/-- Reads a label, or an object with it as its one key over `null`. -/
def decode : Decoder EventKind
  | .string name => named name
  | .object [(name, v)] => do
    let k ← named name
    match v with
    | .null => return k
    | v => .error (.wrongType v .unit)
  | .object _ => .error .manyVariants
  | v => .error (.wrongType v .stringOrMap)

theorem classify_label (k : EventKind) : classify k.label = k := by
  cases k <;> decide

end EventKind

structure Report where
  violations : List Value := []
  requirements : List Value := []
  warnings : List Value := []
  information : List Value := []
deriving DecidableEq, Inhabited

namespace Report

def record : Record :=
  ⟨"ValidationResult", ["violations", "requirements", "warnings", "information"], true⟩

def fields : Fields Report :=
  Report.mk <$> Fields.required "violations" (.list .any)
    <*> Fields.required "requirements" (.list .any)
    <*> Fields.required "warnings" (.list .any)
    <*> Fields.required "information" (.list .any)

def decode : Decoder Report := Fields.decode record fields

def bucket (r : Report) : EventKind → List Value
  | .violation => r.violations
  | .requirement => r.requirements
  | .warning => r.warnings
  | .information => r.information

def push (r : Report) (kind : EventKind) (payload : Value) : Report :=
  match kind with
  | .violation => { r with violations := r.violations ++ [payload] }
  | .requirement => { r with requirements := r.requirements ++ [payload] }
  | .warning => { r with warnings := r.warnings ++ [payload] }
  | .information => { r with information := r.information ++ [payload] }

def recordEvent (r : Report) (e : Event) : Report := r.push (.classify e.kind) e.payload

def recordEvents (r : Report) (events : List Event) : Report := events.foldl recordEvent r

def ofEvents (events : List Event) : Report := recordEvents {} events

def isValid (r : Report) : Bool := r.violations.isEmpty

def messages (r : Report) (kind : EventKind) : List String :=
  (r.bucket kind).filterMap fun p => (p.get? "message").bind Value.string?

/-- The report as a document, its members in the order of the kinds. -/
def encode (r : Report) : Value :=
  .object [("violations", .array r.violations), ("requirements", .array r.requirements),
    ("warnings", .array r.warnings), ("information", .array r.information)]

theorem bucket_push (r : Report) (k j : EventKind) (p : Value) :
    (r.push k p).bucket j = if k = j then r.bucket j ++ [p] else r.bucket j := by
  cases k <;> cases j <;> rfl

end Report
end PermitPolicy
