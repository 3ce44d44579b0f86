import PermitPolicy.Proofs.PolicyFacts
import PermitPolicy.Proofs.Records

/-! Applications and their documents.  An application that was read from a document is written as
the document laid over an empty application, as long as every member of the document has a field,
further permit data apart; so both are judged alike. -/

namespace PermitPolicy
open Json
set_option autoImplicit false

namespace Json

namespace Decoder

theorem signed_eq_ok {bits : Nat} {expected : Expected} {v : Value} {n : Int}
    (h : signed bits expected v = .ok n) : v = .int n := by
  unfold signed at h
  split at h
  · split at h
    · cases h
      rfl
    · cases h
  · cases h

theorem bool_eq_ok {v : Value} {b : Bool} (h : Decoder.bool v = .ok b) : v = .bool b := by
  cases v <;> cases h
  rfl

theorem list_any_eq_ok {v : Value} {items : List Value} (h : Decoder.list .any v = .ok items) :
    v = .array items := by
  have hany : ∀ vs : List Value, vs.mapM Decoder.any = .ok vs := by
    intro vs
    induction vs with
    | nil => rfl
    | cons v vs ih =>
      rw [List.mapM_cons, ih]
      rfl
  cases v with
  | array vs =>
    have hitems := (hany vs).symm.trans h
    cases hitems
    rfl
  | _ => cases h

end Decoder

namespace Fields
variable {α : Type} {s : Source} {name : String}

theorem ofOption_optional {item : Decoder α} {encode : α → Value}
    (he : ∀ {v a}, item v = .ok a → v = encode a) {o : Option α}
    (h : optional name item s = .ok o) :
    Value.ofOption encode o = Value.fill .null (Entries.get? name s.present) := by
  rw [optional, withDefault_eq_ok] at h
  rw [Value.fill_null]
  cases hv : Entries.get? name s.present with
  | none =>
    rw [hv] at h
    cases h
    rfl
  | some v =>
    rw [hv] at h
    rcases Decoder.nullable_eq_ok.mp h with ⟨rfl, rfl⟩ | ⟨-, a, ha, rfl⟩
    · rfl
    · rw [he ha]
      rfl

theorem encodeText_optional {o : Option String} (h : optional name .string s = .ok o) :
    encodeText o = Value.fill .null (Entries.get? name s.present) :=
  ofOption_optional Decoder.string_eq_ok.mp h

theorem ofOption_optional_int {o : Option Int} (h : optional name .int64 s = .ok o) :
    Value.ofOption .int o = Value.fill .null (Entries.get? name s.present) :=
  ofOption_optional Decoder.signed_eq_ok h

theorem ofOption_optional_bool {o : Option Bool} (h : optional name .bool s = .ok o) :
    Value.ofOption .bool o = Value.fill .null (Entries.get? name s.present) :=
  ofOption_optional Decoder.bool_eq_ok h

theorem encode_orDefault {item : Decoder α} {encode : α → Value} {default : α}
    (he : ∀ {v a}, Entries.get? name s.present = some v → v ≠ .null → item v = .ok a →
      encode a = (encode default).overlay v) {a : α}
    (h : orDefault name default item s = .ok a) :
    encode a = Value.fill (encode default) (Entries.get? name s.present) := by
  rw [orDefault, withDefault_eq_ok] at h
  cases hv : Entries.get? name s.present with
  | none =>
    rw [hv] at h
    cases h
    rfl
  | some v =>
    rw [hv] at h
    cases v with
    | null =>
      cases h
      rfl
    | _ => exact he hv (by simp) h

end Fields
end Json

/-- A section of a document: nothing, `null`, or an object with no members but its fields. -/
def IsSection (names : List String) (section? : Option Value) : Prop :=
  ∀ v, section? = some v → v = .null ∨ ∃ ms, v = .object ms ∧ ∀ m ∈ ms, m.1 ∈ names

/-- A record that is written with a slot for each of its fields and nothing else. -/
structure Slotted {α : Type} (record : Record) (fields : Fields α) (encode : α → Value)
    (blank : α) (slots : Entries Value) : Prop where
  blank : encode blank = .object slots
  sorted : slots.Sorted
  names : ∀ key ∈ record.fields, (Entries.get? key slots).isSome
  filled : ∀ {s a}, fields s = .ok a →
    encode a = .object (slots.map fun e => (e.1, Value.fill e.2 (Entries.get? e.1 s.present)))

/-- A section that was read is written as its document laid over an empty one. -/
theorem Slotted.encode_orDefault {α : Type} {record : Record} {fields : Fields α}
    {encode : α → Value} {blank : α} {slots : Entries Value}
    (hs : Slotted record fields encode blank slots) {s : Source} {key : String}
    (hsection : IsSection record.fields (Entries.get? key s.present))
    (hcanonical : ∀ {v}, Entries.get? key s.present = some v → v.Canonical) {a : α}
    (h : Fields.orDefault key blank (Fields.decode record fields) s = .ok a) :
    encode a = Value.fill (encode blank) (Entries.get? key s.present) := by
  refine Fields.encode_orDefault ?_ h
  intro v a hv hne ha
  obtain ⟨ms, rfl, hk⟩ := (hsection v hv).resolve_left hne
  have hm := (hcanonical hv).sorted
  rw [hs.blank, Value.overlay_of_slots hs.sorted hm fun m hmem => hs.names m.1 (hk m hmem)]
  exact hs.filled (Fields.decode_object_eq_ok.mp ha)

def blankSlots (keys : List String) : Entries Value := keys.map fun key => (key, .null)

theorem ContactDetails.slotted : Slotted record fields encode {} (blankSlots
    ["additionalEmail", "email", "fax", "firstName", "lastName", "phone1", "phone1Extension",
      "phone2", "phone2Extension"]) := by
  refine ⟨rfl, by decide, by decide, ?_⟩
  intro s c h
  simp only [fields, Fields.seq_eq_ok, Fields.map_eq_ok] at h
  obtain ⟨_, fax, ⟨_, additional, ⟨_, email, ⟨_, phone2Ext, ⟨_, phone2, ⟨_, phone1Ext,
    ⟨_, phone1, ⟨_, last, ⟨first, hfirst, rfl⟩, hlast, rfl⟩, hphone1, rfl⟩, hphone1Ext, rfl⟩,
    hphone2, rfl⟩, hphone2Ext, rfl⟩, hemail, rfl⟩, hadditional, rfl⟩, hfax, rfl⟩ := h
  simp only [encode, Fields.encodeText_optional hfirst, Fields.encodeText_optional hlast,
    Fields.encodeText_optional hphone1, Fields.encodeText_optional hphone1Ext,
    Fields.encodeText_optional hphone2, Fields.encodeText_optional hphone2Ext,
    Fields.encodeText_optional hemail, Fields.encodeText_optional hadditional,
    Fields.encodeText_optional hfax]
  rfl

theorem VehicleDetails.slotted : Slotted record fields encode {} (blankSlots
    ["countryCode", "make", "plate", "provinceCode", "saveVehicle", "unitNumber", "vehicleId",
      "vehicleSubType", "vehicleType", "vin", "year"]) := by
  refine ⟨rfl, by decide, by decide, ?_⟩
  intro s d h
  simp only [fields, Fields.seq_eq_ok, Fields.map_eq_ok] at h
  obtain ⟨_, save, ⟨_, subType, ⟨_, type, ⟨_, province, ⟨_, country, ⟨_, year, ⟨_, make,
    ⟨_, plate, ⟨_, vin, ⟨_, unit, ⟨id, hid, rfl⟩, hunit, rfl⟩, hvin, rfl⟩, hplate, rfl⟩,
    hmake, rfl⟩, hyear, rfl⟩, hcountry, rfl⟩, hprovince, rfl⟩, htype, rfl⟩, hsubType, rfl⟩,
    hsave, rfl⟩ := h
  simp only [encode, Fields.encodeText_optional hid, Fields.encodeText_optional hunit,
    Fields.encodeText_optional hvin, Fields.encodeText_optional hplate,
    Fields.encodeText_optional hmake, Fields.ofOption_optional_int hyear,
    Fields.encodeText_optional hcountry, Fields.encodeText_optional hprovince,
    Fields.encodeText_optional htype, Fields.encodeText_optional hsubType,
    Fields.ofOption_optional_bool hsave]
  rfl

theorem MailingAddress.slotted : Slotted record fields encode {} (blankSlots
    ["addressLine1", "addressLine2", "city", "countryCode", "postalCode", "provinceCode"]) := by
  refine ⟨rfl, by decide, by decide, ?_⟩
  intro s a h
  simp only [fields, Fields.seq_eq_ok, Fields.map_eq_ok] at h
  obtain ⟨_, postal, ⟨_, country, ⟨_, province, ⟨_, city, ⟨_, line2, ⟨line1, hline1, rfl⟩,
    hline2, rfl⟩, hcity, rfl⟩, hprovince, rfl⟩, hcountry, rfl⟩, hpostal, rfl⟩ := h
  simp only [encode, Fields.encodeText_optional hline1, Fields.encodeText_optional hline2,
    Fields.encodeText_optional hcity, Fields.encodeText_optional hprovince,
    Fields.encodeText_optional hcountry, Fields.encodeText_optional hpostal]
  rfl

namespace PermitData

def slots : Entries Value := encodeNamed {}

theorem encode_of_decode {ms : List (String × Value)} (hm : Value.Canonical (.object ms))
    (hcontact : IsSection ContactDetails.record.fields (Entries.get? "contactDetails" ms))
    (hvehicle : IsSection VehicleDetails.record.fields (Entries.get? "vehicleDetails" ms))
    (hmailing : IsSection MailingAddress.record.fields (Entries.get? "mailingAddress" ms))
    {d : PermitData} (h : decode (.object ms) = .ok d) :
    d.encode = (encode {}).overlay (.object ms) := by
  have hkeys : record.fields.Perm (slots.map (·.1)) := by decide
  have hslots : ∀ key, key ∈ record.fields ↔ (Entries.get? key slots).isSome := fun key =>
    hkeys.mem_iff.trans Entries.isSome_get?_iff.symm
  have hblank : encode {} = .object slots := rfl
  have hcanonical : ∀ {key v}, Entries.get? key ms = some v → v.Canonical := fun h => hm.get? h
  rw [hblank, Value.overlay_object_object (by decide) hm.sorted hslots]
  simp only [decode, fields, Fields.decode_object_eq_ok, Fields.seq_eq_ok, Fields.map_eq_ok] at h
  obtain ⟨_, additional, ⟨_, mailing, ⟨_, commodities, ⟨_, expiry, ⟨_, duration, ⟨_, start,
    ⟨_, vehicle, ⟨_, contact, ⟨_, business, ⟨_, client, ⟨company, hcompany, rfl⟩, hclient, rfl⟩,
    hbusiness, rfl⟩, hcontactDetails, rfl⟩, hvehicleDetails, rfl⟩, hstart, rfl⟩, hduration, rfl⟩,
    hexpiry, rfl⟩, hcommodities, rfl⟩, hmailingAddress, rfl⟩, hadditional, rfl⟩ := h
  have hcontact' := ContactDetails.slotted.encode_orDefault hcontact hcanonical hcontactDetails
  have hvehicle' := VehicleDetails.slotted.encode_orDefault hvehicle hcanonical hvehicleDetails
  have hmailing' := MailingAddress.slotted.encode_orDefault hmailing hcanonical hmailingAddress
  have hcommodities' : Value.array commodities =
      Value.fill (.array []) (Entries.get? "commodities" ms) := by
    refine Fields.encode_orDefault ?_ hcommodities
    intro v items _ _ hitems
    obtain rfl := Decoder.list_any_eq_ok hitems
    rfl
  have hothers : additional.entries = ms.filter fun m => !record.fields.contains m.1 := by
    cases hadditional
    exact Entries.ofList_of_sorted (hm.sorted.filter _)
  simp only [encode, encodeNamed, Fields.encodeText_optional hcompany,
    Fields.encodeText_optional hclient, Fields.encodeText_optional hbusiness, hcontact', hvehicle',
    Fields.encodeText_optional hstart, Fields.ofOption_optional_int hduration,
    Fields.encodeText_optional hexpiry, hcommodities', hmailing', hothers]
  rfl

end PermitData

namespace Application

/-- Documents whose members all are fields, but for further members of the permit data. -/
structure Modelled (ms : List (String × Value)) : Prop where
  members : ∀ m ∈ ms, m.1 ∈ record.fields
  permitData : ∀ v, Entries.get? "permitData" ms = some v → v = .null ∨ v.isObject = true
  contactDetails : IsSection ContactDetails.record.fields
    ((Value.object ms).descend? ["permitData", "contactDetails"])
  vehicleDetails : IsSection VehicleDetails.record.fields
    ((Value.object ms).descend? ["permitData", "vehicleDetails"])
  mailingAddress : IsSection MailingAddress.record.fields
    ((Value.object ms).descend? ["permitData", "mailingAddress"])

theorem encode_of_decode {ms : List (String × Value)} (hd : Value.Canonical (.object ms))
    (hm : Modelled ms) {a : Application} (h : decode (.object ms) = .ok a) :
    a.encode = Facts.completed (.object ms) := by
  have hslots : ∀ key ∈ record.fields,
      (Entries.get? key [("permitData", PermitData.encode {}), ("permitType", .null)]).isSome := by
    decide
  have hblank : Facts.emptyApplication =
      .object [("permitData", PermitData.encode {}), ("permitType", .null)] := rfl
  rw [Facts.completed, hblank, Value.overlay_of_slots (by decide) hd.sorted fun m hmem =>
    hslots m.1 (hm.members m hmem)]
  simp only [decode, fields, Fields.decode_object_eq_ok, Fields.seq_eq_ok, Fields.map_eq_ok] at h
  obtain ⟨_, data, ⟨type, htype, rfl⟩, hdata, rfl⟩ := h
  have hdata' : data.encode =
      Value.fill (PermitData.encode {}) (Entries.get? "permitData" ms) := by
    refine Fields.encode_orDefault ?_ hdata
    intro v d hv hne hdecode
    have hobject := (hm.permitData v hv).resolve_left hne
    have hsection : ∀ key, (Value.object ms).descend? ["permitData", key] = v.get? key := by
      intro key
      simp only [Value.descend?, Value.get?_object, hv, Option.bind_some]
      cases v.get? key <;> rfl
    have hcontact := hm.contactDetails
    have hvehicle := hm.vehicleDetails
    have hmailing := hm.mailingAddress
    rw [hsection] at hcontact hvehicle hmailing
    cases v with
    | object fields =>
      exact PermitData.encode_of_decode (hd.get? hv) hcontact hvehicle hmailing hdecode
    | _ => cases hobject
  simp only [encode, Fields.encodeText_optional htype, hdata']
  rfl

end Application

namespace Policy
open Facts

/-- Only the completed document and the permit type it names bear on a report. -/
theorem validateDocument_congr (p : Policy) {d e : Value} (hc : completed d = completed e)
    (ht : permitTypeId? d = permitTypeId? e) :
    p.documentFacts d = p.documentFacts e ∧ p.validateDocument d = p.validateDocument e := by
  have htype : p.permitType? d = p.permitType? e := by
    unfold permitType?
    rw [ht]
  have hfacts : p.documentFacts d = p.documentFacts e := by
    unfold documentFacts ofDocument
    rw [hc, htype]
  refine ⟨hfacts, ?_⟩
  unfold validateDocument run ruleSets invalidPermitType
  rw [hfacts, htype, ht]

theorem permitTypeId?_completed {d : Value} (hd : d.Canonical) :
    permitTypeId? (completed d) = permitTypeId? d := by
  unfold permitTypeId?
  rw [get?_permitType_completed d hd]
  cases d.get? "permitType" <;> rfl

/-- An application is judged as the document it was read from, and a missing one as any document
that is no object. -/
theorem typed_and_raw_agree (p : Policy) :
    (∀ (ms : List (String × Value)) (a : Application), Value.Canonical (.object ms) →
        Application.Modelled ms → Application.decode (.object ms) = .ok a →
      a.encode = completed (.object ms) ∧
        p.applicationFacts (some a) = p.documentFacts (.object ms) ∧
        p.validate (some a) = p.validateDocument (.object ms)) ∧
      ∀ d : Value, d.isObject = false → p.validate none = p.validateDocument d := by
  constructor
  · intro ms a hd hm h
    have hencode := Application.encode_of_decode hd hm h
    have hdocument : Application.document (some a) = completed (.object ms) := hencode
    have hagree := p.validateDocument_congr
      (Value.overlay_overlay (.object ms) hd emptyApplication_canonical)
      (permitTypeId?_completed hd)
    unfold applicationFacts validate
    rw [hdocument]
    exact ⟨hencode, hagree⟩
  · intro d hd
    have hcompleted : completed d = completed .null := by
      unfold completed emptyApplication Application.encode
      rw [Value.overlay_object]
      cases d with
      | object ms => cases hd
      | _ => rfl
    have htype : permitTypeId? d = permitTypeId? .null := by
      cases d with
      | object ms => cases hd
      | _ => rfl
    exact (p.validateDocument_congr hcompleted.symm htype.symm).2

/-- Permit data with a section, one that is `null`, and a member that is no field. -/
theorem typed_and_raw_agree_additional_member :
    let ms : List (String × Value) :=
      [("permitData", .object [("contactDetails", .object [("email", .string "a@b.c")]),
          ("mailingAddress", .null), ("notes", .object [("seen", .bool true)]),
          ("permitDuration", .int 30)]),
        ("permitType", .string "TROS")]
    let a : Application :=
      { permitType := some "TROS"
        permitData :=
          { contactDetails := { email := some "a@b.c" }
            permitDuration := some 30
            additional := .ofList [("notes", .object [("seen", .bool true)])] } }
    let p : Policy := { definition := { version := "1" }, today := default }
    Value.Canonical (.object ms) ∧ Application.Modelled ms ∧
      Application.decode (.object ms) = .ok a ∧ a.encode = completed (.object ms) ∧
      p.validate (some a) = p.validateDocument (.object ms) ∧
      p.validate none = p.validateDocument (.array []) := by
  intro ms a p
  have hd : Value.Canonical (.object ms) := by decide
  have hm : Application.Modelled ms := by
    refine ⟨by decide, ?_, ?_, ?_, ?_⟩
    · rintro v ⟨⟩
      exact Or.inr rfl
    · rintro v ⟨⟩
      exact Or.inr ⟨_, rfl, by decide⟩
    · rintro v ⟨⟩
    · rintro v ⟨⟩
      exact Or.inl rfl
  have hdecode : Application.decode (.object ms) = .ok a := by rfl
  obtain ⟨hencode, -, hvalidate⟩ := p.typed_and_raw_agree.1 ms a hd hm hdecode
  exact ⟨hd, hm, hdecode, hencode, hvalidate, p.typed_and_raw_agree.2 (.array []) rfl⟩

end Policy
end PermitPolicy
