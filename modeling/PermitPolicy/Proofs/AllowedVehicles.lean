import PermitPolicy.Proofs.OperandForms
import PermitPolicy.Proofs.PolicyFacts
import PermitPolicy.Proofs.RuleDecision

/-! The vehicles that a permit type allows.  The tables of power units and trailers, the list of
catalog entries and the rule that compares a vehicle with the allowed ones are three views of one
set of ids.  They agree because a definition without defects has each vehicle type once and allows
none that it lacks. -/

namespace PermitPolicy
open Json
set_option autoImplicit false

namespace Table
variable {α : Type}

theorem get?_ofList_eq_some_iff {es : List (String × α)} (h : (es.map (·.1)).Nodup) {key : String}
    {a : α} : (ofList es).get? key = some a ↔ (key, a) ∈ es := by
  have hreverse : (es.reverse.map (·.1)).Nodup :=
    ((List.reverse_perm es).map _).nodup_iff.mpr h
  rw [get?_ofList, Entries.get?_eq_some_iff hreverse, List.mem_reverse]

theorem get?_filterKeys (keep : String → Bool) (t : Table α) (key : String) :
    (t.filterKeys keep).get? key = if keep key then t.get? key else none :=
  Entries.get?_filter key keep t.entries

end Table

namespace Catalog

theorem get?_names {entries : List CatalogEntry} (h : (entries.map CatalogEntry.id).Nodup)
    {id name : String} :
    (names entries).get? id = some name ↔ ∃ e ∈ entries, e.id = id ∧ e.name = name := by
  have hkeys : ((entries.map fun e => (e.id, e.name)).map (·.1)).Nodup := by
    rw [List.map_map]
    exact h
  rw [names, Table.get?_ofList_eq_some_iff hkeys]
  simp

theorem contains_names {entries : List CatalogEntry} (h : (entries.map CatalogEntry.id).Nodup)
    {id : String} : (names entries).contains id ↔ ∃ e ∈ entries, e.id = id := by
  rw [Table.contains, Option.isSome_iff_exists]
  simp only [get?_names h]
  constructor
  · rintro ⟨_, e, he, hid, -⟩
    exact ⟨e, he, hid⟩
  · rintro ⟨e, he, hid⟩
    exact ⟨e.name, e, he, hid, rfl⟩

theorem get?_pick (table : NameTable) (ids : List String) (id : String) :
    (pick table ids).get? id = if id ∈ ids then table.get? id else none := by
  have hlist : ∀ ids : List String,
      Entries.get? id (ids.filterMap fun i => (table.get? i).map fun name => (i, name)) =
        if id ∈ ids then table.get? id else none := by
    intro ids
    induction ids with
    | nil => rfl
    | cons i ids ih =>
      by_cases hi : i = id
      · subst hi
        cases hname : table.get? i <;> simp_all
      · cases hname : table.get? i <;> simp [hname, ih, hi, Ne.symm hi]
  rw [pick, Table.get?_ofList, ← List.filterMap_reverse, hlist]
  simp only [List.mem_reverse]

theorem get?_shared (left right : NameTable) (id : String) :
    (shared left right).get? id = if right.contains id then left.get? id else none :=
  Table.get?_filterKeys right.contains left id

/-- Among the entries of a catalog those with one of the ids, by id and name. -/
def Lists (table : NameTable) (entries : List CatalogEntry) (ids : List String) : Prop :=
  ∀ id name, table.get? id = some name ↔ id ∈ ids ∧ ∃ e ∈ entries, e.id = id ∧ e.name = name

theorem Lists.contains_iff {table : NameTable} {entries : List CatalogEntry} {ids : List String}
    (h : Lists table entries ids) {id : String} :
    table.contains id ↔ id ∈ ids ∧ ∃ e ∈ entries, e.id = id := by
  rw [Table.contains, Option.isSome_iff_exists]
  constructor
  · rintro ⟨name, hname⟩
    obtain ⟨hid, e, he, heq, -⟩ := (h id name).mp hname
    exact ⟨hid, e, he, heq⟩
  · rintro ⟨hid, e, he, heq⟩
    exact ⟨e.name, (h id e.name).mpr ⟨hid, e, he, heq, rfl⟩⟩

/-- The entries that a catalog shares with the allowed vehicles, if it is part of a larger one. -/
theorem lists_shared {entries all : List CatalogEntry} (ha : (all.map CatalogEntry.id).Nodup)
    (hs : entries.Sublist all) (ids : List String) :
    Lists (shared (names entries) (pick (names all) ids)) entries ids := by
  have he : (entries.map CatalogEntry.id).Nodup := ha.sublist (hs.map _)
  intro id name
  have hpick : (pick (names all) ids).contains id ↔ id ∈ ids ∧ ∃ e ∈ all, e.id = id := by
    rw [← contains_names ha, Table.contains, get?_pick, Table.contains]
    by_cases hid : id ∈ ids <;> simp [hid]
  rw [get?_shared]
  split
  · rename_i hcontains
    rw [get?_names he]
    exact (and_iff_right (hpick.mp hcontains).1).symm
  · rename_i hcontains
    constructor
    · intro h
      cases h
    · rintro ⟨hid, e, hmem, heq, -⟩
      exact absurd (hpick.mpr ⟨hid, e, hs.subset hmem, heq⟩) hcontains

end Catalog

namespace Definition

/-- No permit type and no vehicle type is defined twice, and all allowed vehicles are defined. -/
structure WellFormed (d : Definition) : Prop where
  permitTypes : (d.permitTypes.map PermitType.id).Nodup
  vehicleTypes : (d.vehicleTypes.all.map CatalogEntry.id).Nodup
  allowedVehicles : ∀ t ∈ d.permitTypes, ∀ v ∈ t.allowedVehicles,
    v ∈ d.vehicleTypes.all.map CatalogEntry.id

theorem unknownVehicle?_eq (known : List String) (types : List PermitType) :
    unknownVehicle? known types = types.findSome? fun t =>
      (t.allowedVehicles.find? fun v => !known.contains v).map fun v => (t.id, v) := by
  induction types with
  | nil => rfl
  | cons t types ih =>
    rw [unknownVehicle?, List.findSome?_cons, ih]
    cases t.allowedVehicles.find? fun v => !known.contains v <;> rfl

theorem unknownVehicle?_eq_none_iff {known : List String} {types : List PermitType} :
    unknownVehicle? known types = none ↔ ∀ t ∈ types, ∀ v ∈ t.allowedVehicles, v ∈ known := by
  simp [unknownVehicle?_eq]

theorem defect?_eq_none_iff {d : Definition} : d.defect? = none ↔ d.WellFormed := by
  have hiff : d.WellFormed ↔ Catalog.firstRepeat (d.permitTypes.map PermitType.id) = none ∧
      Catalog.firstRepeat (d.vehicleTypes.all.map CatalogEntry.id) = none ∧
      unknownVehicle? (d.vehicleTypes.all.map CatalogEntry.id) d.permitTypes = none := by
    rw [Catalog.firstRepeat_eq_none_iff, Catalog.firstRepeat_eq_none_iff,
      unknownVehicle?_eq_none_iff]
    exact ⟨fun h => ⟨h.permitTypes, h.vehicleTypes, h.allowedVehicles⟩,
      fun ⟨ht, hv, ha⟩ => ⟨ht, hv, ha⟩⟩
  rw [hiff]
  unfold defect?
  dsimp only
  cases Catalog.firstRepeat (d.permitTypes.map PermitType.id) with
  | some id => simp
  | none =>
    cases Catalog.firstRepeat (d.vehicleTypes.all.map CatalogEntry.id) <;> simp

theorem wellFormed {d : Definition} (h : d.defect? = none) : d.WellFormed :=
  defect?_eq_none_iff.mp h

end Definition

namespace PermittableVehicles
open Catalog

/-- Each id stands in the table of the catalog that it belongs to, and in no other. -/
structure Covers (m : PermittableVehicles) (types : VehicleTypes) (ids : List String) : Prop where
  powerUnits : Lists m.powerUnits types.powerUnits ids
  trailers : Lists m.trailers types.trailers ids
  disjoint : ∀ id, ¬ (m.powerUnits.contains id ∧ m.trailers.contains id)
  covers : ∀ id, m.powerUnits.contains id ∨ m.trailers.contains id ↔ id ∈ ids

/-- The catalog entries of the tables, each once and in catalog order, power units first. -/
structure InOrder (m : PermittableVehicles) (types : VehicleTypes)
    (units trailers : List CatalogEntry) : Prop where
  units_sublist : units.Sublist types.powerUnits
  trailers_sublist : trailers.Sublist types.trailers
  mem_units : ∀ e ∈ types.powerUnits, e ∈ units ↔ m.powerUnits.contains e.id
  mem_trailers : ∀ e ∈ types.trailers, e ∈ trailers ↔ m.trailers.contains e.id
  nodup : ((units ++ trailers).map CatalogEntry.id).Nodup

variable {m : PermittableVehicles} {types : VehicleTypes} {ids : List String}

theorem covers_of_lists (hn : (types.all.map CatalogEntry.id).Nodup)
    (hk : ∀ id ∈ ids, id ∈ types.all.map CatalogEntry.id)
    (hu : Lists m.powerUnits types.powerUnits ids) (ht : Lists m.trailers types.trailers ids) :
    m.Covers types ids := by
  refine ⟨hu, ht, ?_, ?_⟩
  · intro id
    rw [hu.contains_iff, ht.contains_iff]
    rintro ⟨⟨-, e, he, heid⟩, -, f, hf, hfid⟩
    rw [VehicleTypes.all, List.map_append] at hn
    exact (List.nodup_append.mp hn).2.2 e.id (List.mem_map_of_mem he) f.id
      (List.mem_map_of_mem hf) (heid.trans hfid.symm)
  · intro id
    rw [hu.contains_iff, ht.contains_iff, ← and_or_left]
    constructor
    · exact And.left
    · intro hid
      refine ⟨hid, ?_⟩
      obtain ⟨e, he, heid⟩ := List.mem_map.mp (hk id hid)
      exact (List.mem_append.mp he).imp (fun h => ⟨e, h, heid⟩) fun h => ⟨e, h, heid⟩

theorem Covers.inOrder (hn : (types.all.map CatalogEntry.id).Nodup) (h : m.Covers types ids) :
    m.InOrder types (select types.powerUnits ids) (select types.trailers ids) := by
  have hmem : ∀ {entries : List CatalogEntry} {table : NameTable}, Lists table entries ids →
      ∀ e ∈ entries, e ∈ select entries ids ↔ table.contains e.id := by
    intro entries table hl e he
    rw [hl.contains_iff, select, List.mem_filter]
    constructor
    · rintro ⟨-, hid⟩
      exact ⟨by simpa using hid, e, he, rfl⟩
    · rintro ⟨hid, -⟩
      exact ⟨he, by simpa using hid⟩
  refine ⟨List.filter_sublist, List.filter_sublist, hmem h.powerUnits, hmem h.trailers, ?_⟩
  have hsublist : (select types.powerUnits ids ++ select types.trailers ids).Sublist types.all :=
    List.filter_sublist.append List.filter_sublist
  exact hn.sublist (hsublist.map _)

end PermittableVehicles

namespace Policy
open Facts Catalog
variable {p : Policy} {t : PermitType} {d : Value}

def vehicleSubType : String := "permitData.vehicleDetails.vehicleSubType"

def vehicleAllowed : Comparison :=
  { fact := vehicleSubType, operator := "in", operand := .fact ⟨allowedVehiclesFact, none⟩ }

theorem permitType?_of_mem (hb : p.definition.defect? = none)
    (ht : t ∈ p.definition.permitTypes) : p.definition.permitType? t.id = some t := by
  have hnamed := p.namedPermitType?_of_mem (.object [("permitType", .string t.id)]) hb ht rfl
  rwa [← permitType?_eq] at hnamed

theorem permitType?_eq_none {id : String} (h : ∀ t ∈ p.definition.permitTypes, t.id ≠ id) :
    p.definition.permitType? id = none :=
  List.find?_eq_none.mpr (by simpa using h)

theorem get?_allowedVehicles (p : Policy) (d : Value) :
    (p.documentFacts d).get? allowedVehiclesFact =
      some (.strings (((p.namedPermitType? d).map PermitType.allowedVehicles).getD [])) := by
  rw [← permitType?_eq]
  simp [documentFacts, Table.get?_insert, allowedVehiclesFact, globalWeightDefaultsFact,
    globalSizeDefaultsFact]

/-- The comparison is decided, and true of the texts that the permit type allows. -/
theorem compare_vehicleAllowed (hd : d.Canonical) :
    ∃ v, (p.documentFacts d).get? vehicleSubType = some v ∧
      (standardEngine p.dateFormat).compare (p.documentFacts d) vehicleAllowed =
        .ok (decide (∃ text ∈ ((p.namedPermitType? d).map PermitType.allowedVehicles).getD [],
          v = .string text)) := by
  obtain ⟨v, hv⟩ : ∃ v, (p.documentFacts d).get? vehicleSubType = some v :=
    p.exists_fieldFact hd (by decide)
  refine ⟨v, hv, ?_⟩
  unfold vehicleAllowed
  rw [Engine.compare_in rfl]
  simp only [Engine.operandValue, Engine.factValue, resolve?, hv, p.get?_allowedVehicles d,
    Option.map_some, ← isElement_strings]
  rfl

theorem permittableVehicles?_of_mem (hb : p.definition.defect? = none)
    (ht : t ∈ p.definition.permitTypes) :
    ∃ m, p.permittableVehicles? t.id = some m ∧
      m.Covers p.definition.vehicleTypes t.allowedVehicles := by
  have hw := Definition.wellFormed hb
  refine ⟨_, by rw [permittableVehicles?, permitType?_of_mem hb ht]; rfl, ?_⟩
  apply PermittableVehicles.covers_of_lists hw.vehicleTypes (hw.allowedVehicles t ht)
  · exact lists_shared hw.vehicleTypes (List.sublist_append_left _ _) t.allowedVehicles
  · exact lists_shared hw.vehicleTypes (List.sublist_append_right _ _) t.allowedVehicles

theorem allowedVehicleTypes_of_mem (hb : p.definition.defect? = none)
    (ht : t ∈ p.definition.permitTypes) :
    p.allowedVehicleTypes t.id =
      select p.definition.vehicleTypes.powerUnits t.allowedVehicles ++
        select p.definition.vehicleTypes.trailers t.allowedVehicles := by
  rw [allowedVehicleTypes, permitType?_of_mem hb ht]
  exact List.filter_append _ _

/-- The tables of a permit type's vehicles, the list of their catalog entries and the comparison
of a vehicle with the allowed ones tell the same vehicles. -/
theorem allowed_vehicles_agree (p : Policy) (hb : p.definition.defect? = none) (id : String) :
    let types := p.definition.vehicleTypes
    let e := standardEngine p.dateFormat
    ((p.permittableVehicles? id).isSome ↔ ∃ t ∈ p.definition.permitTypes, t.id = id) ∧
      (∀ t ∈ p.definition.permitTypes, t.id = id →
        ∃ m, p.permittableVehicles? id = some m ∧ m.Covers types t.allowedVehicles ∧
          (∃ units trailers, p.allowedVehicleTypes id = units ++ trailers ∧
            m.InOrder types units trailers) ∧
          ∀ d : Value, d.Canonical → d.get? "permitType" = some (.string id) →
            ∃ allowed, e.compare (p.documentFacts d) vehicleAllowed = .ok allowed ∧
              (allowed = true ↔ ∃ v, (p.documentFacts d).get? vehicleSubType = some (.string v) ∧
                (m.powerUnits.contains v ∨ m.trailers.contains v))) ∧
      ((∀ t ∈ p.definition.permitTypes, t.id ≠ id) → p.allowedVehicleTypes id = []) ∧
      ∀ d : Value, d.Canonical →
        (∀ t ∈ p.definition.permitTypes, d.get? "permitType" ≠ some (.string t.id)) →
          e.compare (p.documentFacts d) vehicleAllowed = .ok false := by
  intro types e
  refine ⟨?_, ?_, ?_, ?_⟩
  · rw [permittableVehicles?, Option.isSome_map, Definition.permitType?]
    simp
  · rintro t ht rfl
    obtain ⟨m, hm, hcovers⟩ := permittableVehicles?_of_mem hb ht
    have horder := hcovers.inOrder (Definition.wellFormed hb).vehicleTypes
    refine ⟨m, hm, hcovers, ⟨_, _, allowedVehicleTypes_of_mem hb ht, horder⟩, ?_⟩
    intro d hd htype
    obtain ⟨v, hv, hcompare⟩ := compare_vehicleAllowed (p := p) hd
    rw [p.namedPermitType?_of_mem d hb ht htype] at hcompare
    refine ⟨_, hcompare, ?_⟩
    simp only [hv, hcovers.covers, decide_eq_true_iff, Option.some.injEq, Option.map_some,
      Option.getD_some]
    constructor
    · rintro ⟨text, htext, heq⟩
      exact ⟨text, heq, htext⟩
    · rintro ⟨text, heq, htext⟩
      exact ⟨text, htext, heq⟩
  · intro h
    rw [allowedVehicleTypes, permitType?_eq_none h]
  · intro d hd h
    obtain ⟨v, -, hcompare⟩ := compare_vehicleAllowed (p := p) hd
    have hnone : p.namedPermitType? d = none := List.find?_eq_none.mpr (by simpa using h)
    rw [hnone] at hcompare
    simpa using hcompare

/-- A trailer that a permit type allows twice, and a document that names no permit type. -/
theorem allowed_vehicles_agree_repeated_id :
    let types : VehicleTypes :=
      { powerUnits := [⟨"TRUCK", "Truck", none⟩, ⟨"VAN", "Van", none⟩]
        trailers := [⟨"SEMI", "Semi-trailer", none⟩] }
    let t : PermitType :=
      { id := "TROS", name := "Oversize", allowedVehicles := ["SEMI", "TRUCK", "SEMI"] }
    let definition : Definition := { version := "1", permitTypes := [t], vehicleTypes := types }
    let p : Policy := { definition, today := default }
    let d : Value := .object
      [("permitData", .object
          [("vehicleDetails", .object [("vehicleSubType", .string "SEMI")])]),
        ("permitType", .string "TROS")]
    let e := standardEngine p.dateFormat
    p.definition.defect? = none ∧ d.Canonical ∧
      (∃ m, p.permittableVehicles? "TROS" = some m ∧ m.trailers.contains "SEMI") ∧
      e.compare (p.documentFacts d) vehicleAllowed = .ok true ∧
      e.compare (p.documentFacts .null) vehicleAllowed = .ok false := by
  intro types t definition p d e
  have hb : p.definition.defect? = none := by decide
  have hd : d.Canonical := by decide
  obtain ⟨-, hdefined, -, hundefined⟩ := allowed_vehicles_agree p hb "TROS"
  obtain ⟨m, hm, hcovers, -, hcompare⟩ := hdefined t List.mem_cons_self rfl
  have htrailer : m.trailers.contains "SEMI" :=
    hcovers.trailers.contains_iff.mpr ⟨by decide, ⟨"SEMI", "Semi-trailer", none⟩, by decide, rfl⟩
  have hfact : (p.documentFacts d).get? vehicleSubType = some (.string "SEMI") := by
    have hpath : ["permitData", "vehicleDetails", "vehicleSubType"] ∈ Application.fieldPaths := by
      decide
    rw [p.get?_documentFacts d (by decide)]
    exact (get?_fieldPath hd hpath p.today p.dateFormat).trans (by decide)
  obtain ⟨allowed, hallowed, hiff⟩ := hcompare d hd rfl
  obtain rfl : allowed = true := hiff.mpr ⟨"SEMI", hfact, Or.inr htrailer⟩
  exact ⟨hb, hd, ⟨m, hm, htrailer⟩, hallowed, hundefined .null trivial (by simp [Value.get?])⟩

end Policy
end PermitPolicy
