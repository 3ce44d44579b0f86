import PermitPolicy.Json.Decode
import PermitPolicy.Rule.Basic

/-! Rules as documents.  A condition is the first of `all`, `any`, `not` and comparison that
its document decodes as, and an operand is a fact reference whenever it decodes as one. -/

namespace PermitPolicy
open Json
set_option autoImplicit false

namespace FactReference

def record : Record := ⟨"FactReference", ["fact", "path"], true⟩

def fields : Fields FactReference :=
  FactReference.mk <$> Fields.required "fact" .string <*> Fields.optional "path" .string

/-- A reference has no members but its fields. -/
def decode? (v : Value) : Option FactReference :=
  let known : Bool := match v with
    | .object ms => ms.all fun m => record.fields.contains m.1
    | _ => true
  if known then (Fields.decode record fields v).toOption else none

def encode (r : FactReference) : Value :=
  .object (("fact", .string r.fact) :: member? "path" (r.path.map .string))

end FactReference

namespace Operand

def decode (v : Value) : Operand :=
  match FactReference.decode? v with
  | some reference => .fact reference
  | none => .literal v

def encode : Operand → Value
  | .fact reference => reference.encode
  | .literal v => v

end Operand

namespace Comparison

def record : Record := ⟨"Comparison", ["fact", "operator", "value", "path"], true⟩

def fields : Fields Comparison :=
  Comparison.mk <$> Fields.required "fact" .string
    <*> Fields.required "operator" .string
    <*> Fields.withDefault "value" (.literal .null) (fun v => .ok (Operand.decode v))
    <*> Fields.optional "path" .string

def decode? (v : Value) : Option Comparison := (Fields.decode record fields v).toOption

def encode (c : Comparison) : Value :=
  .object (("fact", .string c.fact) :: ("operator", .string c.operator) ::
    (member? "path" (c.path.map .string) ++ [("value", c.operand.encode)]))

end Comparison

namespace Condition

mutual
def decode? : Value → Option Condition
  | .object ms =>
    ((decodeList? "all" ms).map .all).orElse fun _ =>
    ((decodeList? "any" ms).map .any).orElse fun _ =>
    ((decodeMember? "not" ms).map .not).orElse fun _ =>
    (Comparison.decode? (.object ms)).map .comparison
  | .array items => (Comparison.decode? (.array items)).map .comparison
  | _ => none

def decodeList? (key : String) : List (String × Value) → Option (List Condition)
  | [] => none
  | (k, .array items) :: rest => if k = key then decodeItems? items else decodeList? key rest
  | (k, _) :: rest => if k = key then none else decodeList? key rest

def decodeMember? (key : String) : List (String × Value) → Option Condition
  | [] => none
  | (k, v) :: rest => if k = key then decode? v else decodeMember? key rest

def decodeItems? : List Value → Option (List Condition)
  | [] => some []
  | v :: rest =>
    match decode? v with
    | none => none
    | some c => (decodeItems? rest).map (c :: ·)
end

def decode : Decoder Condition := fun v =>
  match decode? v with
  | some c => .ok c
  | none => .error (.noVariant "Condition")

mutual
def encode : Condition → Value
  | .all children => .object [("all", .array (encodeAll children))]
  | .any children => .object [("any", .array (encodeAll children))]
  | .not child => .object [("not", encode child)]
  | .comparison leaf => leaf.encode

def encodeAll : List Condition → List Value
  | [] => []
  | c :: rest => encode c :: encodeAll rest
end

end Condition

namespace Event

def record : Record := ⟨"RuleEvent", ["type", "params"], true⟩

def fields : Fields Event :=
  Event.mk <$> Fields.withDefault "type" "" .string <*> Fields.optional "params" .any

def decode : Decoder Event := Fields.decode record fields

def encode (e : Event) : Value :=
  .object (member? "params" e.params ++ [("type", .string e.kind)])

/-- What is reported of an event: its parameters, or else the whole event. -/
def payload (e : Event) : Value := e.params.getD e.encode

end Event

namespace Rule

def record : Record := ⟨"Rule", ["name", "priority", "conditions", "event"], true⟩

def fields : Fields Rule :=
  Rule.mk <$> Fields.optional "name" .string
    <*> Fields.optional "priority" .int32
    <*> Fields.required "conditions" Condition.decode
    <*> Fields.required "event" Event.decode

def decode : Decoder Rule := Fields.decode record fields

def encode (r : Rule) : Value :=
  .object (("conditions", r.conditions.encode) :: ("event", r.event.encode) ::
    (member? "name" (r.name.map .string) ++ member? "priority" (r.priority.map .int)))

end Rule
end PermitPolicy
