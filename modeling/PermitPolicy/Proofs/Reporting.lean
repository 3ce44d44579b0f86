import PermitPolicy.Policy

/-! What a validation reports.  The events of a run are dealt out to the buckets by their
types, each to one bucket and in the order of the run; beside them stands only the violation
for a permit type that is not defined. -/

namespace PermitPolicy
open Json
set_option autoImplicit false

/-- The event types that are no violations. -/
def harmlessTypes : List String := ["requirement", "warning", "information"]

namespace EventKind

/-- Apart from violations, an event is of a kind just if its type is the kind's label. -/
theorem classify_eq_iff {k : EventKind} (hk : k ≠ .violation) (type : String) :
    classify type = k ↔ type = k.label := by
  constructor
  · rintro rfl
    unfold classify at hk ⊢
    split
    · assumption
    · split
      · assumption
      · split
        · assumption
        · simp_all
  · rintro rfl
    exact classify_label k

theorem classify_eq_violation_iff (type : String) :
    classify type = .violation ↔ type ∉ harmlessTypes := by
  simp only [harmlessTypes, List.mem_cons, List.not_mem_nil, or_false, not_or]
  constructor
  · intro h
    refine ⟨?_, ?_, ?_⟩ <;> rintro rfl <;> exact absurd h (by decide)
  · rintro ⟨hr, hw, hi⟩
    simp [classify, hr, hw, hi]

end EventKind

/-- An event without parameters is reported as an object of its type. -/
theorem Event.payload_eq (e : Event) :
    e.payload = match e.params with
      | some params => params
      | none => .object [("type", .string e.kind)] := by
  obtain ⟨kind, _ | params⟩ := e <;> rfl

namespace Report

def size (r : Report) : Nat :=
  r.violations.length + r.requirements.length + r.warnings.length + r.information.length

@[simp] theorem size_push (r : Report) (k : EventKind) (payload : Value) :
    (r.push k payload).size = r.size + 1 := by
  cases k <;> simp only [push, size, List.length_append, List.length_singleton] <;> omega

theorem recordEvents_cons (r : Report) (e : Event) (events : List Event) :
    r.recordEvents (e :: events) =
      (r.push (.classify e.kind) e.payload).recordEvents events := rfl

theorem bucket_recordEvents (r : Report) (events : List Event) (k : EventKind) :
    (r.recordEvents events).bucket k = r.bucket k ++
      (events.filter fun e => EventKind.classify e.kind = k).map Event.payload := by
  induction events generalizing r with
  | nil => simp [recordEvents]
  | cons e events ih =>
    rw [recordEvents_cons, ih, bucket_push]
    by_cases h : EventKind.classify e.kind = k
    · simp [h]
    · simp [h]

theorem size_recordEvents (r : Report) (events : List Event) :
    (r.recordEvents events).size = r.size + events.length := by
  induction events generalizing r with
  | nil => rfl
  | cons e events ih =>
    rw [recordEvents_cons, ih, size_push, List.length_cons]
    omega

theorem violations_recordEvents (r : Report) (events : List Event) :
    (r.recordEvents events).violations = r.violations ++
      (events.filter fun e => e.kind ∉ harmlessTypes).map Event.payload := by
  have h := bucket_recordEvents r events .violation
  simp only [EventKind.classify_eq_violation_iff] at h
  exact h

theorem bucket_recordEvents_label (r : Report) (events : List Event) {k : EventKind}
    (hk : k ≠ .violation) :
    (r.recordEvents events).bucket k = r.bucket k ++
      (events.filter fun e => e.kind = k.label).map Event.payload := by
  have h := bucket_recordEvents r events k
  simpa only [EventKind.classify_eq_iff hk] using h

end Report

theorem Json.Value.string?_eq_some_iff {v : Value} {text : String} :
    v.string? = some text ↔ v = .string text := by
  cases v <;> simp [Value.string?]

namespace Policy
variable (p : Policy) (document : Value)

/-- The permit type whose id the document has as its `permitType`. -/
def namedPermitType? : Option PermitType :=
  p.definition.permitTypes.find? fun t => document.get? "permitType" = some (.string t.id)

theorem permitTypeId?_eq_some_iff {id : String} :
    permitTypeId? document = some id ↔ document.get? "permitType" = some (.string id) := by
  unfold permitTypeId?
  simp only [Option.bind_eq_some_iff, Value.string?_eq_some_iff, exists_eq_right]

theorem permitType?_eq : p.permitType? document = p.namedPermitType? document := by
  unfold permitType? namedPermitType? Definition.permitType?
  simp only [← permitTypeId?_eq_some_iff]
  cases permitTypeId? document with
  | none => exact (List.find?_eq_none.mpr (by simp)).symm
  | some id =>
    simp only [Option.bind_some, Option.some.injEq, eq_comm (a := id)]
    rfl

theorem isSome_namedPermitType? :
    (p.namedPermitType? document).isSome ↔
      ∃ t ∈ p.definition.permitTypes, document.get? "permitType" = some (.string t.id) := by
  simp [namedPermitType?]

theorem ruleSets_eq :
    p.ruleSets document =
      p.definition.commonRules :: ((p.namedPermitType? document).map PermitType.rules).toList := by
  rw [ruleSets, permitType?_eq]

def initialReport : Report :=
  { violations :=
      if (p.namedPermitType? document).isSome then [] else [invalidPermitType document] }

theorem validateDocument_eq :
    p.validateDocument document =
      (p.initialReport document).recordEvents (p.run document).events := by
  unfold validateDocument initialReport
  rw [permitType?_eq]
  cases p.namedPermitType? document <;> rfl

/-- Whatever events the evaluator answers for the facts and the rule sets of a document, each
is reported once and in its order, the failures bear on nothing, and the report is valid just
if the permit type is defined and no event is a violation. -/
theorem validateDocument_deals_out (events : List Event) (failures : List Failure)
    (h : p.evaluator.evaluate (p.documentFacts document)
      (p.definition.commonRules :: ((p.namedPermitType? document).map PermitType.rules).toList) =
        ⟨events, failures⟩) :
    let r := p.validateDocument document
    r.violations =
        (if ∃ t ∈ p.definition.permitTypes, document.get? "permitType" = some (.string t.id)
          then [] else [invalidPermitType document]) ++
        (events.filter fun e => e.kind ∉ harmlessTypes).map Event.payload ∧
      r.requirements = (events.filter fun e => e.kind = "requirement").map Event.payload ∧
      r.warnings = (events.filter fun e => e.kind = "warning").map Event.payload ∧
      r.information = (events.filter fun e => e.kind = "information").map Event.payload ∧
      (invalidPermitType document).get? "code" = some (.string "invalid-permit-type") ∧
      (∀ e : Event, e.payload = match e.params with
        | some params => params
        | none => .object [("type", .string e.kind)]) ∧
      r.size = events.length +
        (if ∃ t ∈ p.definition.permitTypes, document.get? "permitType" = some (.string t.id)
          then 0 else 1) ∧
      (r.isValid ↔
        (∃ t ∈ p.definition.permitTypes, document.get? "permitType" = some (.string t.id)) ∧
          ∀ e ∈ events, e.kind ∈ harmlessTypes) := by
  intro r
  have hrun : p.run document = ⟨events, failures⟩ := by rw [run, ruleSets_eq, h]
  have hr : r = (p.initialReport document).recordEvents events := by
    have hv := p.validateDocument_eq document
    rwa [hrun] at hv
  have hv : r.violations = _ := hr ▸ Report.violations_recordEvents _ events
  have hs : r.size = _ := hr ▸ Report.size_recordEvents _ events
  have hb : ∀ k, k ≠ .violation → r.bucket k = _ :=
    fun k hk => hr ▸ Report.bucket_recordEvents_label _ events hk
  simp only [initialReport, p.isSome_namedPermitType? document] at hv hs
  refine ⟨hv, hb .requirement (by decide), hb .warning (by decide), hb .information (by decide),
    rfl, Event.payload_eq, ?_, ?_⟩
  · rw [hs]
    split <;> simp [Report.size, Nat.add_comm]
  · rw [Report.isValid, List.isEmpty_iff, hv, List.append_eq_nil_iff, List.map_eq_nil_iff,
      List.filter_eq_nil_iff]
    simp

/-- An evaluator of its own that answers two events and a failure, for a document without a
permit type. -/
theorem validateDocument_deals_out_nothing_named :
    let events : List Event := [⟨"warning", some (.string "late")⟩, ⟨"Warning", none⟩]
    let failures : List Failure := [⟨"weights", .undefinedFact "weight"⟩]
    let p := withEvaluator { definition := { version := "1" }, today := default }
      ⟨fun _ _ => ⟨events, failures⟩⟩
    p.evaluator.evaluate (p.documentFacts .null) [[]] = ⟨events, failures⟩ ∧
      (p.validateDocument .null).violations =
        [invalidPermitType .null, .object [("type", .string "Warning")]] ∧
      (p.validateDocument .null).warnings = [.string "late"] := by
  intro events failures p
  have h := p.validateDocument_deals_out .null events failures rfl
  exact ⟨rfl, h.1.trans (by decide), h.2.2.1.trans (by decide)⟩

end Policy
end PermitPolicy
