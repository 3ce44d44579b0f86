import PermitPolicy.Catalog
import PermitPolicy.Rule.Codec

/-! Policy definitions: the rules common to all permits, the permit types with rules of
their own, and the catalogs that they refer to. -/

namespace PermitPolicy
open Json
set_option autoImplicit false

structure VehicleTypes where
  powerUnits : List CatalogEntry := []
  trailers : List CatalogEntry := []
deriving DecidableEq, Inhabited

namespace VehicleTypes

def record : Record := ⟨"VehicleTypes", ["powerUnitTypes", "trailerTypes"], true⟩

def fields : Fields VehicleTypes :=
  VehicleTypes.mk <$> Fields.withDefault "powerUnitTypes" [] (.list CatalogEntry.decode)
    <*> Fields.withDefault "trailerTypes" [] (.list CatalogEntry.decode)

def decode : Decoder VehicleTypes := Fields.decode record fields

def encode (t : VehicleTypes) : Value :=
  .object [("powerUnitTypes", .array (t.powerUnits.map CatalogEntry.encode)),
    ("trailerTypes", .array (t.trailers.map CatalogEntry.encode))]

/-- Power units, then trailers. -/
def all (t : VehicleTypes) : List CatalogEntry := t.powerUnits ++ t.trailers

end VehicleTypes

structure VehicleCategories where
  powerUnits : List CatalogEntry := []
  trailers : List CatalogEntry := []
deriving DecidableEq, Inhabited

namespace VehicleCategories

def record : Record :=
  ⟨"VehicleCategories", ["powerUnitCategories", "trailerCategories"], true⟩

def fields : Fields VehicleCategories :=
  VehicleCategories.mk
    <$> Fields.withDefault "powerUnitCategories" [] (.list CatalogEntry.decode)
    <*> Fields.withDefault "trailerCategories" [] (.list CatalogEntry.decode)

def decode : Decoder VehicleCategories := Fields.decode record fields

def encode (c : VehicleCategories) : Value :=
  .object [("powerUnitCategories", .array (c.powerUnits.map CatalogEntry.encode)),
    ("trailerCategories", .array (c.trailers.map CatalogEntry.encode))]

end VehicleCategories

structure PermitType where
  id : String
  name : String
  routingRequired : Bool := false
  weightDimensionRequired : Bool := false
  sizeDimensionRequired : Bool := false
  commodityRequired : Bool := false
  allowedVehicles : List String := []
  rules : List Rule := []
deriving Inhabited

namespace PermitType

def record : Record :=
  ⟨"PermitTypeDefinition", ["id", "name", "routingRequired", "weightDimensionRequired",
    "sizeDimensionRequired", "commodityRequired", "allowedVehicles", "rules"], true⟩

def fields : Fields PermitType :=
  PermitType.mk <$> Fields.required "id" .string
    <*> Fields.required "name" .string
    <*> Fields.withDefault "routingRequired" false .bool
    <*> Fields.withDefault "weightDimensionRequired" false .bool
    <*> Fields.withDefault "sizeDimensionRequired" false .bool
    <*> Fields.withDefault "commodityRequired" false .bool
    <*> Fields.withDefault "allowedVehicles" [] (.list .string)
    <*> Fields.withDefault "rules" [] (.list Rule.decode)

def decode : Decoder PermitType := Fields.decode record fields

def encode (t : PermitType) : Value :=
  .object [("allowedVehicles", .strings t.allowedVehicles),
    ("commodityRequired", .bool t.commodityRequired),
    ("id", .string t.id),
    ("name", .string t.name),
    ("routingRequired", .bool t.routingRequired),
    ("rules", .array (t.rules.map Rule.encode)),
    ("sizeDimensionRequired", .bool t.sizeDimensionRequired),
    ("weightDimensionRequired", .bool t.weightDimensionRequired)]

end PermitType

structure Definition where
  version : String
  geographicRegions : List Value := []
  commonRules : List Rule := []
  permitTypes : List PermitType := []
  globalWeightDefaults : Value := .null
  globalSizeDefaults : Value := .null
  vehicleCategories : VehicleCategories := {}
  vehicleTypes : VehicleTypes := {}
  commodities : List CatalogEntry := []
deriving Inhabited

namespace Definition

def record : Record :=
  ⟨"PolicyDefinition", ["version", "geographicRegions", "commonRules", "permitTypes",
    "globalWeightDefaults", "globalSizeDefaults", "vehicleCategories", "vehicleTypes",
    "commodities"], true⟩

def fields : Fields Definition :=
  Definition.mk <$> Fields.required "version" .string
    <*> Fields.withDefault "geographicRegions" [] (.list .any)
    <*> Fields.withDefault "commonRules" [] (.list Rule.decode)
    <*> Fields.withDefault "permitTypes" [] (.list PermitType.decode)
    <*> Fields.withDefault "globalWeightDefaults" .null .any
    <*> Fields.withDefault "globalSizeDefaults" .null .any
    <*> Fields.withDefault "vehicleCategories" {} VehicleCategories.decode
    <*> Fields.withDefault "vehicleTypes" {} VehicleTypes.decode
    <*> Fields.withDefault "commodities" [] (.list CatalogEntry.decode)

def decode : Decoder Definition := Fields.decode record fields

def encode (d : Definition) : Value :=
  .object [("commodities", .array (d.commodities.map CatalogEntry.encode)),
    ("commonRules", .array (d.commonRules.map Rule.encode)),
    ("geographicRegions", .array d.geographicRegions),
    ("globalSizeDefaults", d.globalSizeDefaults),
    ("globalWeightDefaults", d.globalWeightDefaults),
    ("permitTypes", .array (d.permitTypes.map PermitType.encode)),
    ("vehicleCategories", d.vehicleCategories.encode),
    ("vehicleTypes", d.vehicleTypes.encode),
    ("version", .string d.version)]

/-- The first permit type with an id. -/
def permitType? (d : Definition) (id : String) : Option PermitType :=
  d.permitTypes.find? fun t => t.id == id

end Definition
end PermitPolicy
