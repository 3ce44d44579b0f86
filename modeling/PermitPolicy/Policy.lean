import PermitPolicy.Definition
import PermitPolicy.Engine
import PermitPolicy.Facts.Document
import PermitPolicy.Operator.Standard
import PermitPolicy.Report

/-! Policies: a checked definition with a clock, a date format and an evaluator, and the
validation of applications against it.  Without an evaluator of its own, a policy uses the
engine with the standard operators of its date format. -/

namespace PermitPolicy
open Json Calendar
set_option autoImplicit false

inductive PolicyError where
  | notAnObject
  | unreadable (cause : ReadError)
  | malformed (cause : DecodeError)
  | invalidRule (location : String) (cause : DecodeError)
  | duplicatePermitType (id : String)
  | duplicateVehicleType (id : String)
  | unknownAllowedVehicle (permitType vehicle : String)
deriving DecidableEq

def PolicyError.message : PolicyError → String
  | .notAnObject => "policy definition must be a JSON object"
  | .unreadable cause => "policy definition is malformed: " ++ cause.message
  | .malformed cause => "policy definition is malformed: " ++ cause.message
  | .invalidRule location cause => s!"rule {location} is malformed: {cause.message}"
  | .duplicatePermitType id => s!"permit type '{id}' is defined more than once"
  | .duplicateVehicleType id => s!"vehicle type '{id}' is defined more than once"
  | .unknownAllowedVehicle permitType vehicle =>
    s!"permit type '{permitType}' allows unknown vehicle type '{vehicle}'"

namespace Definition

def unknownVehicle? (known : List String) : List PermitType → Option (String × String)
  | [] => none
  | t :: rest =>
    match t.allowedVehicles.find? fun v => !known.contains v with
    | some v => some (t.id, v)
    | none => unknownVehicle? known rest

/-- The first defect of a definition: a permit type or vehicle type defined twice, or a
vehicle type allowed but not defined. -/
def defect? (d : Definition) : Option PolicyError :=
  let vehicles := d.vehicleTypes.all.map CatalogEntry.id
  match Catalog.firstRepeat (d.permitTypes.map PermitType.id) with
  | some id => some (.duplicatePermitType id)
  | none =>
    match Catalog.firstRepeat vehicles with
    | some id => some (.duplicateVehicleType id)
    | none =>
      (unknownVehicle? vehicles d.permitTypes).map fun (t, v) => .unknownAllowedVehicle t v

def elements (key : String) (v : Value) : List Value := ((v.get? key).bind Value.array?).getD []

/-- The rules of a definition's document with their places in it: the common rules, then
those of each permit type. -/
def locatedRules (v : Value) : List (String × Value) :=
  ((elements "commonRules" v).mapIdx fun i r => (s!"commonRules[{i}]", r)) ++
    (elements "permitTypes" v).flatMap fun t =>
      let id := ((t.get? "id").bind Value.string?).getD "?"
      (elements "rules" t).mapIdx fun i r => (s!"permitTypes[{id}].rules[{i}]", r)

/-- The place of a rule, with its name if it has one. -/
def describeRule (location : String) (rule : Value) : String :=
  match (rule.get? "name").bind Value.string? with
  | some name => s!"{location} '{name}'"
  | none => location

def malformedRule? (v : Value) : Option PolicyError :=
  (locatedRules v).findSome? fun (location, rule) =>
    match Rule.decode rule with
    | .error cause => some (.invalidRule (describeRule location rule) cause)
    | .ok _ => none

end Definition

inductive EvaluatorChoice where
  | standard
  | supplied (e : Evaluator)

structure Policy where
  definition : Definition
  today : Date
  dateFormat : DateFormat := .standard
  choice : EvaluatorChoice := .standard

structure PermittableVehicles where
  powerUnits : NameTable
  trailers : NameTable
deriving DecidableEq

namespace PermittableVehicles

def record : Record := ⟨"PermittableVehicles", ["powerUnits", "trailers"], true⟩

def fields : Fields PermittableVehicles :=
  PermittableVehicles.mk <$> Fields.required "powerUnits" (.table .string)
    <*> Fields.required "trailers" (.table .string)

def decode : Decoder PermittableVehicles := Fields.decode record fields

def encode (v : PermittableVehicles) : Value :=
  .object [("powerUnits", Catalog.encodeNames v.powerUnits),
    ("trailers", Catalog.encodeNames v.trailers)]

end PermittableVehicles

namespace Policy

def build (d : Definition) (today : Date) : Except PolicyError Policy :=
  match d.defect? with
  | some e => .error e
  | none => .ok { definition := d, today }

/-- The policy of a document.  A rule that does not decode is reported by its place, before
any other fault of the document. -/
def ofValue (v : Value) (today : Date) : Except PolicyError Policy :=
  if !v.isObject then .error .notAnObject
  else
    match Definition.malformedRule? v with
    | some e => .error e
    | none =>
      match Definition.decode v with
      | .error cause => .error (.malformed cause)
      | .ok d => build d today

def ofText (text : String) (today : Date) : Except PolicyError Policy :=
  match Json.read text with
  | .error cause => .error (.unreadable cause)
  | .ok v => ofValue v today

def withClock (p : Policy) (today : Date) : Policy := { p with today }

def withEvaluator (p : Policy) (e : Evaluator) : Policy := { p with choice := .supplied e }

def withDateFormat (p : Policy) (f : DateFormat) : Policy := { p with dateFormat := f }

def standardEngine (f : DateFormat) : Engine := { operators := .standard f }

def evaluator (p : Policy) : Evaluator :=
  match p.choice with
  | .standard => (standardEngine p.dateFormat).evaluator
  | .supplied e => e

def permitTypeId? (document : Value) : Option String :=
  (document.get? "permitType").bind Value.string?

def permitType? (p : Policy) (document : Value) : Option PermitType :=
  (permitTypeId? document).bind p.definition.permitType?

def allowedVehiclesFact : String := "allowedVehicles"
def globalWeightDefaultsFact : String := "globalWeightDefaults"
def globalSizeDefaultsFact : String := "globalSizeDefaults"

def documentFacts (p : Policy) (document : Value) : Facts :=
  let allowed := ((p.permitType? document).map PermitType.allowedVehicles).getD []
  (((Facts.ofDocument document p.today p.dateFormat).insert
      allowedVehiclesFact (.strings allowed)).insert
      globalWeightDefaultsFact p.definition.globalWeightDefaults).insert
      globalSizeDefaultsFact p.definition.globalSizeDefaults

def applicationFacts (p : Policy) (a : Option Application) : Facts :=
  p.documentFacts (Application.document a)

/-- The rules for an application: the common ones, then those of its permit type. -/
def ruleSets (p : Policy) (document : Value) : List (List Rule) :=
  p.definition.commonRules :: ((p.permitType? document).map PermitType.rules).toList

def invalidPermitTypeCode : String := "invalid-permit-type"

def invalidPermitType (document : Value) : Value :=
  let named := (permitTypeId? document).getD ""
  .object [("code", .string invalidPermitTypeCode),
    ("message", .string s!"Permit type '{named}' is not valid")]

def run (p : Policy) (document : Value) : EngineRun :=
  p.evaluator.evaluate (p.documentFacts document) (p.ruleSets document)

/-- Validates an application's document as it is, whatever it holds. -/
def validateDocument (p : Policy) (document : Value) : Report :=
  let start : Report :=
    if (p.permitType? document).isNone then
      Report.push {} .violation (invalidPermitType document)
    else {}
  start.recordEvents (p.run document).events

def validate (p : Policy) (a : Option Application) : Report :=
  p.validateDocument (Application.document a)

def permitTypes (p : Policy) : NameTable :=
  .ofList (p.definition.permitTypes.map fun t => (t.id, t.name))

def powerUnitTypes (p : Policy) : NameTable :=
  Catalog.names p.definition.vehicleTypes.powerUnits

def trailerTypes (p : Policy) : NameTable := Catalog.names p.definition.vehicleTypes.trailers

def commodities (p : Policy) : NameTable := Catalog.names p.definition.commodities

def allowedVehicleTypes (p : Policy) (id : String) : List CatalogEntry :=
  match p.definition.permitType? id with
  | some t => Catalog.select p.definition.vehicleTypes.all t.allowedVehicles
  | none => []

/-- The vehicles that a permit type may be issued for, by their catalogs. -/
def permittableVehicles? (p : Policy) (id : String) : Option PermittableVehicles :=
  (p.definition.permitType? id).map fun t =>
    let allowed := Catalog.pick (Catalog.names p.definition.vehicleTypes.all) t.allowedVehicles
    { powerUnits := Catalog.shared p.powerUnitTypes allowed
      trailers := Catalog.shared p.trailerTypes allowed }

def describe (p : Policy) : String :=
  let version := Text.quoted p.definition.version
  let format := Text.quoted p.dateFormat.text
  "Policy \x7b version: " ++ version ++
    s!", permit_types: {p.definition.permitTypes.length}" ++
    s!", common_rules: {p.definition.commonRules.length}" ++
    ", date_format: " ++ format ++ " \x7d"

end Policy
end PermitPolicy
