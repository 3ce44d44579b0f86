import PermitPolicy.Json.Decode

/-! Permit applications.  Every field may be missing or `null`, a section that is `null`
reads as an empty one, and members of the permit data that are not named here are kept. -/

namespace PermitPolicy
open Json
set_option autoImplicit false

structure ContactDetails where
  firstName : Option String := none
  lastName : Option String := none
  phone1 : Option String := none
  phone1Extension : Option String := none
  phone2 : Option String := none
  phone2Extension : Option String := none
  email : Option String := none
  additionalEmail : Option String := none
  fax : Option String := none
deriving DecidableEq, Inhabited

def encodeText (s : Option String) : Value := .ofOption .string s

namespace ContactDetails

def record : Record :=
  ⟨"ContactDetails", ["firstName", "lastName", "phone1", "phone1Extension", "phone2",
    "phone2Extension", "email", "additionalEmail", "fax"], true⟩

def fields : Fields ContactDetails :=
  ContactDetails.mk <$> Fields.optional "firstName" .string
    <*> Fields.optional "lastName" .string
    <*> Fields.optional "phone1" .string
    <*> Fields.optional "phone1Extension" .string
    <*> Fields.optional "phone2" .string
    <*> Fields.optional "phone2Extension" .string
    <*> Fields.optional "email" .string
    <*> Fields.optional "additionalEmail" .string
    <*> Fields.optional "fax" .string

def decode : Decoder ContactDetails := Fields.decode record fields

def encode (c : ContactDetails) : Value :=
  .object [("additionalEmail", encodeText c.additionalEmail),
    ("email", encodeText c.email),
    ("fax", encodeText c.fax),
    ("firstName", encodeText c.firstName),
    ("lastName", encodeText c.lastName),
    ("phone1", encodeText c.phone1),
    ("phone1Extension", encodeText c.phone1Extension),
    ("phone2", encodeText c.phone2),
    ("phone2Extension", encodeText c.phone2Extension)]

end ContactDetails

structure VehicleDetails where
  vehicleId : Option String := none
  unitNumber : Option String := none
  vin : Option String := none
  plate : Option String := none
  make : Option String := none
  year : Option Int := none
  countryCode : Option String := none
  provinceCode : Option String := none
  vehicleType : Option String := none
  vehicleSubType : Option String := none
  saveVehicle : Option Bool := none
deriving DecidableEq, Inhabited

namespace VehicleDetails

def record : Record :=
  ⟨"VehicleDetails", ["vehicleId", "unitNumber", "vin", "plate", "make", "year",
    "countryCode", "provinceCode", "vehicleType", "vehicleSubType", "saveVehicle"], true⟩

def fields : Fields VehicleDetails :=
  VehicleDetails.mk <$> Fields.optional "vehicleId" .string
    <*> Fields.optional "unitNumber" .string
    <*> Fields.optional "vin" .string
    <*> Fields.optional "plate" .string
    <*> Fields.optional "make" .string
    <*> Fields.optional "year" .int64
    <*> Fields.optional "countryCode" .string
    <*> Fields.optional "provinceCode" .string
    <*> Fields.optional "vehicleType" .string
    <*> Fields.optional "vehicleSubType" .string
    <*> Fields.optional "saveVehicle" .bool

def decode : Decoder VehicleDetails := Fields.decode record fields

def encode (d : VehicleDetails) : Value :=
  .object [("countryCode", encodeText d.countryCode),
    ("make", encodeText d.make),
    ("plate", encodeText d.plate),
    ("provinceCode", encodeText d.provinceCode),
    ("saveVehicle", .ofOption .bool d.saveVehicle),
    ("unitNumber", encodeText d.unitNumber),
    ("vehicleId", encodeText d.vehicleId),
    ("vehicleSubType", encodeText d.vehicleSubType),
    ("vehicleType", encodeText d.vehicleType),
    ("vin", encodeText d.vin),
    ("year", .ofOption .int d.year)]

end VehicleDetails

structure MailingAddress where
  addressLine1 : Option String := none
  addressLine2 : Option String := none
  city : Option String := none
  provinceCode : Option String := none
  countryCode : Option String := none
  postalCode : Option String := none
deriving DecidableEq, Inhabited

namespace MailingAddress

def record : Record :=
  ⟨"MailingAddress", ["addressLine1", "addressLine2", "city", "provinceCode", "countryCode",
    "postalCode"], true⟩

def fields : Fields MailingAddress :=
  MailingAddress.mk <$> Fields.optional "addressLine1" .string
    <*> Fields.optional "addressLine2" .string
    <*> Fields.optional "city" .string
    <*> Fields.optional "provinceCode" .string
    <*> Fields.optional "countryCode" .string
    <*> Fields.optional "postalCode" .string

def decode : Decoder MailingAddress := Fields.decode record fields

def encode (a : MailingAddress) : Value :=
  .object [("addressLine1", encodeText a.addressLine1),
    ("addressLine2", encodeText a.addressLine2),
    ("city", encodeText a.city),
    ("countryCode", encodeText a.countryCode),
    ("postalCode", encodeText a.postalCode),
    ("provinceCode", encodeText a.provinceCode)]

end MailingAddress

structure PermitData where
  companyName : Option String := none
  clientNumber : Option String := none
  doingBusinessAs : Option String := none
  contactDetails : ContactDetails := {}
  vehicleDetails : VehicleDetails := {}
  startDate : Option String := none
  permitDuration : Option Int := none
  expiryDate : Option String := none
  commodities : List Value := []
  mailingAddress : MailingAddress := {}
  /-- Members that are none of the fields above. -/
  additional : Table Value := .empty
deriving DecidableEq, Inhabited

namespace PermitData

/-- Having members of any name, permit data cannot be given as an array. -/
def record : Record :=
  ⟨"PermitData", ["companyName", "clientNumber", "doingBusinessAs", "contactDetails",
    "vehicleDetails", "startDate", "permitDuration", "expiryDate", "commodities",
    "mailingAddress"], false⟩

def fields : Fields PermitData :=
  PermitData.mk <$> Fields.optional "companyName" .string
    <*> Fields.optional "clientNumber" .string
    <*> Fields.optional "doingBusinessAs" .string
    <*> Fields.orDefault "contactDetails" {} ContactDetails.decode
    <*> Fields.orDefault "vehicleDetails" {} VehicleDetails.decode
    <*> Fields.optional "startDate" .string
    <*> Fields.optional "permitDuration" .int64
    <*> Fields.optional "expiryDate" .string
    <*> Fields.orDefault "commodities" [] (.list .any)
    <*> Fields.orDefault "mailingAddress" {} MailingAddress.decode
    <*> Fields.others

def decode : Decoder PermitData := Fields.decode record fields

def encodeNamed (d : PermitData) : Entries Value :=
  [("clientNumber", encodeText d.clientNumber),
    ("commodities", .array d.commodities),
    ("companyName", encodeText d.companyName),
    ("contactDetails", d.contactDetails.encode),
    ("doingBusinessAs", encodeText d.doingBusinessAs),
    ("expiryDate", encodeText d.expiryDate),
    ("mailingAddress", d.mailingAddress.encode),
    ("permitDuration", .ofOption .int d.permitDuration),
    ("startDate", encodeText d.startDate),
    ("vehicleDetails", d.vehicleDetails.encode)]

def encode (d : PermitData) : Value :=
  .object (d.encodeNamed.insertAll d.additional.entries)

end PermitData

structure Application where
  permitType : Option String := none
  permitData : PermitData := {}
deriving DecidableEq, Inhabited

namespace Application

def record : Record := ⟨"PermitApplication", ["permitType", "permitData"], true⟩

def fields : Fields Application :=
  Application.mk <$> Fields.optional "permitType" .string
    <*> Fields.orDefault "permitData" {} PermitData.decode

def decode : Decoder Application := Fields.decode record fields

def encode (a : Application) : Value :=
  .object [("permitData", a.permitData.encode), ("permitType", encodeText a.permitType)]

/-- The document of an application; a missing one is `null`. -/
def document (a : Option Application) : Value := .ofOption encode a

end Application
end PermitPolicy
