import PermitPolicy.Proofs.RuleRoundTrip

/-! Definitions and applications read back.  Every record of a definition is written with all its
fields, so its parts are read back one by one.  The further members of permit data are written
behind its named ones, whose names they cannot have. -/

namespace PermitPolicy
open Json Fields
set_option autoImplicit false

theorem object_ne_null {α : Type} (members : α → List (String × Value)) (a : α) :
    Value.object (members a) ≠ .null := by
  simp

theorem CatalogEntry.readsBack : ReadsBack decode encode := by
  apply Fields.readsBack
  intro s e _ h
  rw [fields, eq_ok_iff_exists] at h ⊢
  simp only [exists_seq, exists_map] at h ⊢
  obtain ⟨id, hid, name, hname, category, hcategory, rfl⟩ := h
  exact ⟨id, required_back .string hid (by cases category <;> rfl),
    name, required_back .string hname (by cases category <;> rfl),
    category, text_back hcategory (by cases category <;> rfl), rfl⟩

theorem VehicleTypes.readsBack : ReadsBack decode encode := by
  apply Fields.readsBack
  intro s t _ h
  rw [fields, eq_ok_iff_exists] at h ⊢
  simp only [exists_seq, exists_map] at h ⊢
  obtain ⟨powerUnits, hpowerUnits, trailers, htrailers, rfl⟩ := h
  exact ⟨powerUnits, list_back CatalogEntry.readsBack hpowerUnits rfl,
    trailers, list_back CatalogEntry.readsBack htrailers rfl, rfl⟩

theorem VehicleCategories.readsBack : ReadsBack decode encode := by
  apply Fields.readsBack
  intro s c _ h
  rw [fields, eq_ok_iff_exists] at h ⊢
  simp only [exists_seq, exists_map] at h ⊢
  obtain ⟨powerUnits, hpowerUnits, trailers, htrailers, rfl⟩ := h
  exact ⟨powerUnits, list_back CatalogEntry.readsBack hpowerUnits rfl,
    trailers, list_back CatalogEntry.readsBack htrailers rfl, rfl⟩

theorem PermitType.readsBack : ReadsBack decode encode := by
  apply Fields.readsBack
  intro s t _ h
  rw [fields, eq_ok_iff_exists] at h ⊢
  simp only [exists_seq, exists_map] at h ⊢
  obtain ⟨id, hid, name, hname, routing, hrouting, weight, hweight, size, hsize, commodity,
    hcommodity, allowed, hallowed, rules, hrules, rfl⟩ := h
  exact ⟨id, required_back .string hid rfl,
    name, required_back .string hname rfl,
    routing, withDefault_back .bool rfl hrouting rfl,
    weight, withDefault_back .bool rfl hweight rfl,
    size, withDefault_back .bool rfl hsize rfl,
    commodity, withDefault_back .bool rfl hcommodity rfl,
    allowed, list_back .string hallowed rfl,
    rules, list_back Rule.readsBack hrules rfl, rfl⟩

theorem Definition.readsBack : ReadsBack decode encode := by
  apply Fields.readsBack
  intro s d _ h
  rw [fields, eq_ok_iff_exists] at h ⊢
  simp only [exists_seq, exists_map] at h ⊢
  obtain ⟨version, hversion, regions, hregions, rules, hrules, types, htypes, weights, hweights,
    sizes, hsizes, categories, hcategories, vehicles, hvehicles, commodities, hcommodities,
    rfl⟩ := h
  refine ⟨version, required_back .string hversion rfl,
    regions, list_back .any hregions ?_,
    rules, list_back Rule.readsBack hrules rfl,
    types, list_back PermitType.readsBack htypes rfl,
    weights, withDefault_back .any rfl hweights rfl,
    sizes, withDefault_back .any rfl hsizes rfl,
    categories, withDefault_back VehicleCategories.readsBack rfl hcategories rfl,
    vehicles, withDefault_back VehicleTypes.readsBack rfl hvehicles rfl,
    commodities, list_back CatalogEntry.readsBack hcommodities rfl, rfl⟩
  rw [List.map_id]
  rfl

theorem ContactDetails.readsBack : ReadsBack decode encode := by
  apply Fields.readsBack
  intro s c _ h
  rw [fields, eq_ok_iff_exists] at h ⊢
  simp only [exists_seq, exists_map] at h ⊢
  obtain ⟨first, hfirst, last, hlast, phone1, hphone1, phone1Ext, hphone1Ext, phone2, hphone2,
    phone2Ext, hphone2Ext, email, hemail, additional, hadditional, fax, hfax, rfl⟩ := h
  exact ⟨first, text_back hfirst rfl, last, text_back hlast rfl,
    phone1, text_back hphone1 rfl, phone1Ext, text_back hphone1Ext rfl,
    phone2, text_back hphone2 rfl, phone2Ext, text_back hphone2Ext rfl,
    email, text_back hemail rfl, additional, text_back hadditional rfl,
    fax, text_back hfax rfl, rfl⟩

theorem VehicleDetails.readsBack : ReadsBack decode encode := by
  apply Fields.readsBack
  intro s d _ h
  rw [fields, eq_ok_iff_exists] at h ⊢
  simp only [exists_seq, exists_map] at h ⊢
  obtain ⟨id, hid, unit, hunit, vin, hvin, plate, hplate, make, hmake, year, hyear, country,
    hcountry, province, hprovince, type, htype, subType, hsubType, save, hsave, rfl⟩ := h
  exact ⟨id, text_back hid rfl, unit, text_back hunit rfl, vin, text_back hvin rfl,
    plate, text_back hplate rfl, make, text_back hmake rfl,
    year, signed_back hyear rfl,
    country, text_back hcountry rfl, province, text_back hprovince rfl,
    type, text_back htype rfl, subType, text_back hsubType rfl,
    save, optional_back .bool (by simp) hsave rfl, rfl⟩

theorem MailingAddress.readsBack : ReadsBack decode encode := by
  apply Fields.readsBack
  intro s a _ h
  rw [fields, eq_ok_iff_exists] at h ⊢
  simp only [exists_seq, exists_map] at h ⊢
  obtain ⟨line1, hline1, line2, hline2, city, hcity, province, hprovince, country, hcountry,
    postal, hpostal, rfl⟩ := h
  exact ⟨line1, text_back hline1 rfl, line2, text_back hline2 rfl, city, text_back hcity rfl,
    province, text_back hprovince rfl, country, text_back hcountry rfl,
    postal, text_back hpostal rfl, rfl⟩

namespace PermitData

theorem sorted_encodeNamed (d : PermitData) : d.encodeNamed.Sorted := by
  have hkeys : (d.encodeNamed.map (·.1)).Pairwise (· < ·) := by
    simp only [encodeNamed, List.map_cons, List.map_nil]
    decide
  exact List.pairwise_map.mp hkeys

theorem key_of_mem_encodeNamed (d : PermitData) : ∀ e ∈ d.encodeNamed, e.1 ∈ record.fields := by
  simp [encodeNamed, record]

/-- A named member is found where the further members have no field. -/
theorem get?_members {d : PermitData}
    (hd : ∀ key ∈ record.fields, d.additional.get? key = none) {key : String} {v : Value}
    (hv : Entries.get? key d.encodeNamed = some v) :
    Entries.get? key (d.encodeNamed.insertAll d.additional.entries) = some v := by
  have hkey : Entries.get? key d.additional.entries = none :=
    hd key (d.key_of_mem_encodeNamed _ (Entries.mem_of_get? hv))
  rw [Entries.get?_insertAll, Entries.get?_reverse d.additional.sorted, hkey, hv]
  rfl

theorem others_of_fields {s : Source} {d : PermitData} (h : fields s = .ok d) :
    others s = .ok d.additional := by
  rw [fields, eq_ok_iff_exists] at h
  simp only [exists_seq, exists_map] at h
  obtain ⟨_, -, _, -, _, -, _, -, _, -, _, -, _, -, _, -, _, -, _, -, additional, hothers, rfl⟩ := h
  exact hothers

/-- Permit data is read from any source with its named members and its further ones. -/
theorem fields_back {s t : Source} {d : PermitData} (h : fields s = .ok d)
    (hnamed : ∀ {key v}, Entries.get? key d.encodeNamed = some v →
      Entries.get? key t.present = some v) (hothers : others t = .ok d.additional) :
    fields t = .ok d := by
  -- A member of `t` is known by its look-up only, so no field sees where the others stand.
  have hnull : ∀ {key v}, Entries.get? key d.encodeNamed = some v →
      (Entries.get? key t.present).getD .null = v := by
    intro key v hv
    rw [hnamed hv]
    rfl
  rw [fields, eq_ok_iff_exists] at h ⊢
  simp only [exists_seq, exists_map] at h ⊢
  obtain ⟨company, hcompany, client, hclient, business, hbusiness, contact, hcontact, vehicle,
    hvehicle, start, hstart, duration, hduration, expiry, hexpiry, commodities, hcommodities,
    mailing, hmailing, additional, hadditional, rfl⟩ := h
  exact ⟨company, text_back hcompany (hnull rfl), client, text_back hclient (hnull rfl),
    business, text_back hbusiness (hnull rfl),
    contact, orDefault_back ContactDetails.readsBack (object_ne_null _) rfl hcontact (hnamed rfl),
    vehicle, orDefault_back VehicleDetails.readsBack (object_ne_null _) rfl hvehicle (hnamed rfl),
    start, text_back hstart (hnull rfl),
    duration, signed_back hduration (hnull rfl),
    expiry, text_back hexpiry (hnull rfl),
    commodities, orDefault_back ReadsBack.any.list (by simp) rfl hcommodities
      (by rw [List.map_id]; exact hnamed rfl),
    mailing, orDefault_back MailingAddress.readsBack (object_ne_null _) rfl hmailing (hnamed rfl),
    additional, hothers, rfl⟩

theorem readsBack : ReadsBack decode encode := by
  apply Fields.readsBack
  intro s d hrecord h
  have hothers := others_of_fields h
  have hextra := others_back d.sorted_encodeNamed (hrecord ▸ d.key_of_mem_encodeNamed) hothers
  rw [hrecord] at hextra
  have hd : ∀ key ∈ record.fields, d.additional.get? key = none :=
    fun key hkey => others_get?_field hothers (hrecord ▸ hkey)
  exact fields_back h (get?_members hd) hextra

end PermitData

theorem Application.readsBack : ReadsBack decode encode := by
  apply Fields.readsBack
  intro s a _ h
  rw [fields, eq_ok_iff_exists] at h ⊢
  simp only [exists_seq, exists_map] at h ⊢
  obtain ⟨type, htype, data, hdata, rfl⟩ := h
  exact ⟨type, text_back htype rfl,
    data, orDefault_back PermitData.readsBack (object_ne_null _) rfl hdata rfl, rfl⟩

/-- Definitions, rules, conditions and applications that were read, from whatever form, are read
again from what they are written as. -/
theorem stored_documents_read_back :
    (∀ (v : Value) (d : Definition), Definition.decode v = .ok d →
        Definition.decode d.encode = .ok d) ∧
      (∀ (v : Value) (r : Rule), Rule.decode v = .ok r → Rule.decode r.encode = .ok r) ∧
      (∀ (v : Value) (c : Condition), Condition.decode v = .ok c →
        Condition.decode c.encode = .ok c) ∧
      ∀ (v : Value) (a : Application), Application.decode v = .ok a →
        Application.decode a.encode = .ok a :=
  ⟨Definition.readsBack, Rule.readsBack, Condition.readsBack, Application.readsBack⟩

/-- Records given as arrays, `null` for an optional field, a reference beside an object that only
looks like one, and a member that is no field. -/
theorem stored_documents_read_back_array_forms :
    let condition : Value := .object [("not", .object [("any", .array
      [.array [.string "weight", .string "equal", .object [("fact", .string "limit")]],
        .object [("fact", .string "weight"), ("operator", .string "equal"),
          ("value", .object [("fact", .string "limit"), ("unit", .null)])]])])]
    let c : Condition := .not (.any
      [.comparison ⟨"weight", "equal", .fact ⟨"limit", none⟩, none⟩,
        .comparison ⟨"weight", "equal",
          .literal (.object [("fact", .string "limit"), ("unit", .null)]), none⟩])
    let rule : Value := .array [.null, .int 7, condition, .array []]
    let r : Rule := { name := none, priority := some 7, conditions := c, event := {} }
    let definition : Value := .array [.string "1", .array [.null], .array [rule]]
    let d : Definition := { version := "1", geographicRegions := [.null], commonRules := [r] }
    let application : Value := .array [.string "TROS",
      .object [("notes", .array []), ("permitDuration", .int 30),
        ("vehicleDetails", .array [.string "7"])]]
    let a : Application :=
      { permitType := some "TROS"
        permitData :=
          { vehicleDetails := { vehicleId := some "7" }
            permitDuration := some 30
            additional := .ofList [("notes", .array [])] } }
    (Definition.decode definition = .ok d ∧ Definition.decode d.encode = .ok d) ∧
      (Rule.decode rule = .ok r ∧ Rule.decode r.encode = .ok r) ∧
      (Condition.decode condition = .ok c ∧ Condition.decode c.encode = .ok c) ∧
      Application.decode application = .ok a ∧ Application.decode a.encode = .ok a := by
  intro condition c rule r definition d application a
  have hd : Definition.decode definition = .ok d := by rfl
  have hr : Rule.decode rule = .ok r := by rfl
  have hc : Condition.decode condition = .ok c := by rfl
  have ha : Application.decode application = .ok a := by rfl
  obtain ⟨definitions, rules, conditions, applications⟩ := stored_documents_read_back
  exact ⟨⟨hd, definitions _ _ hd⟩, ⟨hr, rules _ _ hr⟩, ⟨hc, conditions _ _ hc⟩,
    ha, applications _ _ ha⟩

end PermitPolicy
