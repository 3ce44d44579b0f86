import PermitPolicy.Proofs.PolicyFacts

/-! What a report does not depend on.  Of a policy's definition only the common rules, the global
defaults, and the rules and allowed vehicles of the permit type that a document names have a say in
what is reported of the document. -/

namespace PermitPolicy
open Json
set_option autoImplicit false

namespace Policy

/-- Policies that agree in everything but catalogs, permit types, regions and version. -/
structure AgreeInCommon (p q : Policy) : Prop where
  today : p.today = q.today
  dateFormat : p.dateFormat = q.dateFormat
  evaluator : p.evaluator = q.evaluator
  commonRules : p.definition.commonRules = q.definition.commonRules
  globalWeightDefaults : p.definition.globalWeightDefaults = q.definition.globalWeightDefaults
  globalSizeDefaults : p.definition.globalSizeDefaults = q.definition.globalSizeDefaults

/-- Policies that both lack the permit type of a document, or have the same rules and vehicles for
it; a document may also have no permit type that is a text. -/
inductive AgreeOn (p q : Policy) (d : Value) : Prop where
  | unnamed (h : ∀ id, d.get? "permitType" ≠ some (.string id))
  | undefined (id : String) (h : d.get? "permitType" = some (.string id))
      (left : ∀ t ∈ p.definition.permitTypes, t.id ≠ id)
      (right : ∀ t ∈ q.definition.permitTypes, t.id ≠ id)
  | defined (t u : PermitType) (left : t ∈ p.definition.permitTypes)
      (right : u ∈ q.definition.permitTypes)
      (named : d.get? "permitType" = some (.string t.id)) (id : t.id = u.id)
      (rules : t.rules = u.rules) (allowedVehicles : t.allowedVehicles = u.allowedVehicles)

variable {p q : Policy} {d : Value}

theorem namedPermitType?_eq_none
    (h : ∀ t ∈ p.definition.permitTypes, d.get? "permitType" ≠ some (.string t.id)) :
    p.namedPermitType? d = none :=
  List.find?_eq_none.mpr (by simpa using h)

theorem AgreeOn.permitType (hp : p.definition.defect? = none) (hq : q.definition.defect? = none)
    (h : AgreeOn p q d) :
    (p.permitType? d).map PermitType.rules = (q.permitType? d).map PermitType.rules ∧
      (p.permitType? d).map PermitType.allowedVehicles =
        (q.permitType? d).map PermitType.allowedVehicles := by
  rw [permitType?_eq, permitType?_eq]
  cases h with
  | unnamed h =>
    rw [namedPermitType?_eq_none fun t _ => h t.id, namedPermitType?_eq_none fun t _ => h t.id]
    exact ⟨rfl, rfl⟩
  | undefined id h left right =>
    have hne : ∀ t : PermitType, t.id ≠ id → d.get? "permitType" ≠ some (.string t.id) := by
      intro t hid ht
      rw [h] at ht
      cases ht
      exact hid rfl
    rw [namedPermitType?_eq_none fun t ht => hne t (left t ht),
      namedPermitType?_eq_none fun t ht => hne t (right t ht)]
    exact ⟨rfl, rfl⟩
  | defined t u left right named id rules allowedVehicles =>
    rw [p.namedPermitType?_of_mem d hp left named,
      q.namedPermitType?_of_mem d hq right (id ▸ named)]
    exact ⟨congrArg some rules, congrArg some allowedVehicles⟩

theorem documentFacts_congr (hc : AgreeInCommon p q)
    (ht : (p.permitType? d).map PermitType.allowedVehicles =
      (q.permitType? d).map PermitType.allowedVehicles) :
    p.documentFacts d = q.documentFacts d := by
  unfold documentFacts
  rw [hc.today, hc.dateFormat, hc.globalWeightDefaults, hc.globalSizeDefaults, ht]

theorem run_congr (hc : AgreeInCommon p q)
    (hr : (p.permitType? d).map PermitType.rules = (q.permitType? d).map PermitType.rules)
    (ht : (p.permitType? d).map PermitType.allowedVehicles =
      (q.permitType? d).map PermitType.allowedVehicles) : p.run d = q.run d := by
  unfold run ruleSets
  rw [hc.evaluator, documentFacts_congr hc ht, hc.commonRules, hr]

theorem AgreeOn.validateDocument (hp : p.definition.defect? = none)
    (hq : q.definition.defect? = none) (hc : AgreeInCommon p q) (h : AgreeOn p q d) :
    p.validateDocument d = q.validateDocument d := by
  obtain ⟨hr, ht⟩ := h.permitType hp hq
  have hnone : (p.permitType? d).isNone = (q.permitType? d).isNone := by
    rw [← Option.isNone_map (f := PermitType.rules), hr, Option.isNone_map]
  unfold Policy.validateDocument
  rw [hnone, run_congr hc hr ht]

def terms (t : PermitType) : String × List String × List Rule :=
  (t.id, t.allowedVehicles, t.rules)

/-- With the same permit types up to order, names and requirements, policies agree on every
document. -/
theorem agreeOn_of_terms
    (h : ∀ x, x ∈ p.definition.permitTypes.map terms ↔ x ∈ q.definition.permitTypes.map terms)
    (d : Value) : AgreeOn p q d := by
  by_cases hnamed : ∃ id, d.get? "permitType" = some (.string id)
  · obtain ⟨id, hid⟩ := hnamed
    by_cases hleft : ∃ t ∈ p.definition.permitTypes, t.id = id
    · obtain ⟨t, ht, rfl⟩ := hleft
      obtain ⟨u, hu, hterms⟩ := List.mem_map.mp ((h _).mp (List.mem_map_of_mem ht))
      simp only [terms, Prod.mk.injEq] at hterms
      obtain ⟨hut, hvehicles, hrules⟩ := hterms
      exact .defined t u ht hu hid hut.symm hrules.symm hvehicles.symm
    · refine .undefined id hid (fun t ht he => hleft ⟨t, ht, he⟩) fun u hu he => ?_
      obtain ⟨t, ht, hterms⟩ := List.mem_map.mp ((h _).mpr (List.mem_map_of_mem hu))
      exact hleft ⟨t, ht, (congrArg Prod.fst hterms).trans he⟩
  · exact .unnamed fun id hid => hnamed ⟨id, hid⟩

/-- A report depends on nothing in the definition but the common rules, the global defaults, and
the rules and vehicles of the permit type that the document names. -/
theorem report_independent (p q : Policy) (hp : p.definition.defect? = none)
    (hq : q.definition.defect? = none) (hc : AgreeInCommon p q) :
    (∀ d, AgreeOn p q d → p.validateDocument d = q.validateDocument d) ∧
      ((∀ x, x ∈ p.definition.permitTypes.map terms ↔ x ∈ q.definition.permitTypes.map terms) →
        ∀ d, p.validateDocument d = q.validateDocument d) := by
  constructor
  · intro d hd
    exact hd.validateDocument hp hq hc
  · intro hterms d
    exact (agreeOn_of_terms hterms d).validateDocument hp hq hc

/-- Another version and catalog, another name of the permit type, and one more permit type. -/
theorem report_independent_of_other_types :
    let never : Rule := { conditions := .any [], event := { kind := "violation" } }
    let always : Rule := { conditions := .all [], event := { kind := "violation" } }
    let tros : PermitType := { id := "TROS", name := "Oversize", rules := [never] }
    let renamed : PermitType := { tros with name := "Term Oversize", routingRequired := true }
    let other : PermitType := { id := "TROW", name := "Overweight", rules := [always] }
    let trucks : VehicleTypes := { powerUnits := [⟨"TRUCK", "Truck", none⟩] }
    let p : Policy := { definition := { version := "1", permitTypes := [tros] }, today := default }
    let q : Policy :=
      { definition := { version := "2", permitTypes := [other, renamed], vehicleTypes := trucks }
        today := default }
    let d : Value := .object [("permitType", .string "TROS")]
    p.definition.defect? = none ∧ q.definition.defect? = none ∧ AgreeInCommon p q ∧
      AgreeOn p q d ∧ p.validateDocument d = q.validateDocument d := by
  intro never always tros renamed other trucks p q d
  have hp : p.definition.defect? = none := by decide
  have hq : q.definition.defect? = none := by decide
  have hc : AgreeInCommon p q := ⟨rfl, rfl, rfl, rfl, rfl, rfl⟩
  have hd : AgreeOn p q d :=
    .defined tros renamed List.mem_cons_self (by simp [q]) rfl rfl rfl rfl
  exact ⟨hp, hq, hc, hd, (report_independent p q hp hq hc).1 d hd⟩

end Policy
end PermitPolicy
