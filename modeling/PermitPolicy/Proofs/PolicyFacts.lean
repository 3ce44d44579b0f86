import PermitPolicy.Proofs.FactNames
import PermitPolicy.Proofs.ReadBack
import PermitPolicy.Proofs.Reporting

/-! Facts that a document cannot take over.  The permit type is the document's own member, the
allowed vehicles and the global defaults are the policy's, and the dates come from the day, the
format, the start date and the duration, whatever other members the document has. -/

namespace PermitPolicy
open Json Calendar
set_option autoImplicit false

namespace Catalog

theorem firstRepeatAfter_eq_none_iff {seen ids : List String} :
    firstRepeatAfter seen ids = none ↔ ids.Nodup ∧ ∀ id ∈ ids, id ∉ seen := by
  induction ids generalizing seen with
  | nil => simp [firstRepeatAfter]
  | cons id ids ih =>
    rw [firstRepeatAfter]
    by_cases hid : id ∈ seen
    · simp [hid]
    · rw [if_neg (by simpa using hid), ih, List.nodup_cons]
      simp only [List.mem_cons, not_or, forall_eq_or_imp]
      constructor
      · rintro ⟨hnodup, hseen⟩
        exact ⟨⟨fun hmem => (hseen id hmem).1 rfl, hnodup⟩, hid, fun i hi => (hseen i hi).2⟩
      · rintro ⟨⟨hfresh, hnodup⟩, -, hseen⟩
        exact ⟨hnodup, fun i hi => ⟨fun heq => hfresh (heq ▸ hi), hseen i hi⟩⟩

theorem firstRepeat_eq_none_iff {ids : List String} : firstRepeat ids = none ↔ ids.Nodup := by
  simp [firstRepeat, firstRepeatAfter_eq_none_iff]

end Catalog

theorem Definition.nodup_permitTypes {d : Definition} (h : d.defect? = none) :
    (d.permitTypes.map PermitType.id).Nodup := by
  unfold defect? at h
  dsimp only at h
  split at h
  · cases h
  · rename_i hrepeat
    exact Catalog.firstRepeat_eq_none_iff.mp hrepeat

/-- The permit year of a start date, as a fact. -/
def permitYearFact (format : DateFormat) (start : Option Value) : Value :=
  .ofOption .int ((start.bind (readDate? format)).bind daysInPermitYear?)

/-- The last day of a permit with a start date and a duration, as a fact. -/
def expiryFact (format : DateFormat) (start duration : Option Value) : Value :=
  .ofOption (fun d => .string (format.write d))
    ((start.bind (readDate? format)).bind fun date =>
      (duration.bind Value.int64?).bind (expiryDate? date))

namespace Policy
open Facts
variable (p : Policy) (d : Value)

theorem namedPermitType?_of_mem (hb : p.definition.defect? = none) {t : PermitType}
    (ht : t ∈ p.definition.permitTypes) (hd : d.get? "permitType" = some (.string t.id)) :
    p.namedPermitType? d = some t := by
  have hnodup := Definition.nodup_permitTypes hb
  unfold namedPermitType?
  rw [List.find?_eq_some_iff_append]
  refine ⟨by simpa using hd, ?_⟩
  obtain ⟨before, after, heq⟩ := List.append_of_mem ht
  refine ⟨before, after, heq, ?_⟩
  intro u hu
  rw [heq, List.map_append, List.map_cons] at hnodup
  have hne : u.id ≠ t.id := by
    intro he
    have hdisjoint := (List.nodup_append.mp hnodup).2.2
    exact hdisjoint u.id (List.mem_map_of_mem hu) t.id List.mem_cons_self he
  simpa [hd] using Ne.symm hne

/-- The empty application has nothing in the place of a permit type. -/
theorem get?_permitType_completed (hd : d.Canonical) :
    (completed d).get? "permitType" = some ((d.get? "permitType").getD .null) := by
  have hslot : emptyApplication.get? "permitType" = some .null := rfl
  have hbase : emptyApplication = .object _ := rfl
  unfold completed
  rw [hbase, Value.get?_overlay_object hd, ← Value.get?_object, ← hbase, hslot]
  cases d.get? "permitType" with
  | none => rfl
  | some v =>
    have hlaid : Value.null.overlay v = v := by
      rw [Value.overlay_of_not_object rfl]
      cases v <;> rfl
    exact congrArg some hlaid

theorem get?_fieldFact (hd : d.Canonical) {path : List String}
    (hp : path ∈ Application.fieldPaths) :
    (p.documentFacts d).get? (DottedName.dotted path) =
      ((DottedName.coarser path).findSome? fun q => d.descend? q).or
        ((completed d).descend? path) := by
  have hnames : ∀ path ∈ Application.fieldPaths, DottedName.dotted path ∉
      [allowedVehiclesFact, globalWeightDefaultsFact, globalSizeDefaultsFact] := by decide
  rw [p.get?_documentFacts d (hnames path hp)]
  exact get?_fieldPath hd hp p.today p.dateFormat

theorem get?_permitType (hd : d.Canonical) :
    (p.documentFacts d).get? "permitType" = some ((d.get? "permitType").getD .null) := by
  have hpath : ["permitType"] ∈ Application.fieldPaths := by decide
  have hfact : (p.documentFacts d).get? "permitType" =
      ((completed d).get? "permitType").bind (Value.descend? []) := p.get?_fieldFact d hd hpath
  rw [hfact, get?_permitType_completed d hd]
  rfl

theorem get?_daysInPermitYear : (p.documentFacts d).get? daysInPermitYear =
    some (permitYearFact p.dateFormat ((completed d).descend? ["permitData", "startDate"])) := by
  rw [p.get?_documentFacts d (by decide)]
  simp only [ofDocument, Table.get?_insert]
  rfl

/-- What selects and parameterises the rules is the document's own permit type, what the policy
has for it, the day, and the start date and duration at their places. -/
theorem documentFacts_settled (hb : p.definition.defect? = none) (hd : d.Canonical) :
    let facts := p.documentFacts d
    let start := (completed d).descend? ["permitData", "startDate"]
    let duration := (completed d).descend? ["permitData", "permitDuration"]
    facts.get? "permitType" = some ((d.get? "permitType").getD .null) ∧
      (∀ t ∈ p.definition.permitTypes, d.get? "permitType" = some (.string t.id) →
        facts.get? allowedVehiclesFact = some (.strings t.allowedVehicles)) ∧
      ((∀ t ∈ p.definition.permitTypes, d.get? "permitType" ≠ some (.string t.id)) →
        facts.get? allowedVehiclesFact = some (.strings [])) ∧
      facts.get? globalWeightDefaultsFact = some p.definition.globalWeightDefaults ∧
      facts.get? globalSizeDefaultsFact = some p.definition.globalSizeDefaults ∧
      (∃ written, p.dateFormat.write? p.today = some written ∧
        facts.get? validationDate = some (.string written)) ∧
      facts.get? daysInPermitYear = some (permitYearFact p.dateFormat start) ∧
      facts.get? expiryDate = some (expiryFact p.dateFormat start duration) := by
  intro facts start duration
  have hallowed : facts.get? allowedVehiclesFact =
      some (.strings (((p.namedPermitType? d).map PermitType.allowedVehicles).getD [])) := by
    rw [← permitType?_eq]
    simp [facts, documentFacts, Table.get?_insert, allowedVehiclesFact, globalWeightDefaultsFact,
      globalSizeDefaultsFact]
  refine ⟨p.get?_permitType d hd, ?_, ?_, ?_, ?_, ?_, ?_, ?_⟩
  · intro t ht htype
    rw [hallowed, p.namedPermitType?_of_mem d hb ht htype]
    rfl
  · intro hnone
    have hfind : p.namedPermitType? d = none := List.find?_eq_none.mpr (by simpa using hnone)
    rw [hallowed, hfind]
    rfl
  · simp [facts, documentFacts, Table.get?_insert, globalWeightDefaultsFact, globalSizeDefaultsFact]
  · simp [facts, documentFacts, Table.get?_insert]
  · exact ⟨_, p.dateFormat.write?_eq p.today, p.get?_validationDate d⟩
  · rw [p.get?_documentFacts d (by decide)]
    simp only [ofDocument, Table.get?_insert]
    rfl
  · rw [p.get?_documentFacts d (by decide)]
    simp only [ofDocument, Table.get?_insert]
    rfl

/-- A document whose other members have the names of settled facts, alone or under an empty key. -/
theorem documentFacts_settled_reserved_names :
    let t : PermitType := { id := "TROS", name := "Oversize", allowedVehicles := ["TRUCK"] }
    let vehicleTypes : VehicleTypes := { powerUnits := [⟨"TRUCK", "Truck", none⟩] }
    let definition : Definition := { version := "1", permitTypes := [t], vehicleTypes }
    let p : Policy := { definition, today := default }
    let d : Value := .object
      [("", .object [("permitType", .string "other"), ("validationDate", .string "never")]),
        ("allowedVehicles", .strings ["TRAILER"]),
        ("permitData", .object [("startDate", .string "2024-01-01")]),
        ("permitData.startDate", .string "2030-06-01"),
        ("permitType", .string "TROS")]
    p.definition.defect? = none ∧ d.Canonical ∧
      (p.documentFacts d).get? "permitType" = some (.string "TROS") ∧
      (p.documentFacts d).get? allowedVehiclesFact = some (.strings ["TRUCK"]) ∧
      (p.documentFacts d).get? validationDate = some (.string "0001-01-01") ∧
      (p.documentFacts d).get? daysInPermitYear = some (.int 366) := by
  intro t vehicleTypes definition p d
  have hb : p.definition.defect? = none := by decide
  have hd : d.Canonical := by decide
  obtain ⟨htype, hallowed, -, -, -, ⟨written, hwrite, hdate⟩, hyear, -⟩ :=
    p.documentFacts_settled d hb hd
  have hvalue : p.dateFormat.write? p.today = some "0001-01-01" := by decide
  obtain rfl : "0001-01-01" = written := Option.some.inj (hvalue.symm.trans hwrite)
  refine ⟨hb, hd, htype, hallowed t List.mem_cons_self rfl, hdate, hyear.trans ?_⟩
  decide

end Policy
end PermitPolicy
