import PermitPolicy.Engine
import PermitPolicy.Operator.Standard
import PermitPolicy.Proofs.Records

/-! Which documents an operand reads as fact references.  Being a record, a reference may
also be given as an array of its fields, so an array of one text, or of a text and a second
text or `null`, is no literal: as the value of `in` it names a fact. -/

namespace PermitPolicy
open Json
set_option autoImplicit false

/-- What a member that may be missing or `null` gives as a text. -/
def ReadsText (v : Option Value) : Option String → Prop
  | some text => v = some (.string text)
  | none => v = none ∨ v = some .null

/-- An object with no members but `fact`, a text, and perhaps `path`, a text or `null`. -/
def ReferenceObject (r : FactReference) (v : Value) : Prop :=
  ∃ ms, v = .object ms ∧ (∀ m ∈ ms, m.1 = "fact" ∨ m.1 = "path") ∧
    Entries.get? "fact" ms = some (.string r.fact) ∧ ReadsText (Entries.get? "path" ms) r.path

/-- An array of a text, and perhaps a second text or `null`. -/
def ReferenceArray (r : FactReference) (v : Value) : Prop :=
  ∃ items, v = .array items ∧ items.length ≤ 2 ∧
    items[0]? = some (.string r.fact) ∧ ReadsText items[1]? r.path

theorem not_referenceObject_of_array {r s : FactReference} {v : Value}
    (h : ReferenceArray r v) : ¬ ReferenceObject s v := by
  obtain ⟨items, rfl, _⟩ := h
  rintro ⟨_, ⟨⟩, _⟩

theorem referenceArray_iff {r : FactReference} {v : Value} :
    ReferenceArray r v ↔
      (v = .array [.string r.fact] ∧ r.path = none) ∨
      (v = .array [.string r.fact, .null] ∧ r.path = none) ∨
      ∃ path, v = .array [.string r.fact, .string path] ∧ r.path = some path := by
  obtain ⟨fact, path⟩ := r
  constructor
  · rintro ⟨items, rfl, hlength, hfact, hpath⟩
    rcases items with _ | ⟨a, _ | ⟨b, _ | ⟨c, rest⟩⟩⟩
    · cases hfact
    · cases path <;> simp_all [ReadsText]
    · cases path <;> simp_all [ReadsText]
    · simp at hlength
  · rintro (⟨rfl, rfl⟩ | ⟨rfl, rfl⟩ | ⟨path, rfl, rfl⟩)
    · exact ⟨_, rfl, by simp, rfl, Or.inl rfl⟩
    · exact ⟨_, rfl, by simp, rfl, Or.inr rfl⟩
    · exact ⟨_, rfl, by simp, rfl, rfl⟩

namespace FactReference

theorem fields_eq_ok {s : Source} {r : FactReference} :
    fields s = .ok r ↔ Entries.get? "fact" s.present = some (.string r.fact) ∧
      ReadsText (Entries.get? "path" s.present) r.path := by
  unfold fields
  simp only [Fields.seq_eq_ok, Fields.map_eq_ok, Fields.required_eq_ok, Decoder.string_eq_ok]
  constructor
  · rintro ⟨_, path, ⟨_, ⟨v, hv, rfl⟩, rfl⟩, hpath, rfl⟩
    refine ⟨hv, ?_⟩
    have h := Fields.optional_string_eq_ok.mp hpath
    cases path <;> exact h
  · rintro ⟨hfact, hpath⟩
    refine ⟨_, r.path, ⟨_, ⟨_, hfact, rfl⟩, rfl⟩, ?_, rfl⟩
    apply Fields.optional_string_eq_ok.mpr
    obtain ⟨fact, _ | path⟩ := r <;> exact hpath

theorem decode?_of_not_object {v : Value} (h : v.isObject = false) :
    decode? v = (Fields.decode record fields v).toOption := by
  cases v with
  | object ms => cases h
  | _ => rfl

theorem known_iff (ms : List (String × Value)) :
    (ms.all fun m => record.fields.contains m.1) = true ↔
      ∀ m ∈ ms, m.1 = "fact" ∨ m.1 = "path" := by
  simp [record]

theorem get?_zip_items (items : List Value) :
    Entries.get? "fact" (record.fields.zip items) = items[0]? ∧
      Entries.get? "path" (record.fields.zip items) = items[1]? := by
  rcases items with _ | ⟨a, _ | ⟨b, rest⟩⟩ <;> simp [record]

theorem decode?_object {ms : List (String × Value)} {r : FactReference} :
    decode? (.object ms) = some r ↔ ReferenceObject r (.object ms) := by
  have h : decode? (.object ms) = some r ↔
      (ms.all fun m => record.fields.contains m.1) = true ∧
        fields ⟨record, ms, false⟩ = .ok r := by
    unfold decode?
    rw [← Fields.decode_object_eq_ok, ← toOption_eq_some]
    split <;> simp_all
  rw [h, known_iff, fields_eq_ok]
  constructor
  · rintro ⟨hknown, hfields⟩
    exact ⟨ms, rfl, hknown, hfields⟩
  · rintro ⟨_, ⟨⟩, hknown, hfields⟩
    exact ⟨hknown, hfields⟩

theorem decode?_array {items : List Value} {r : FactReference} :
    decode? (.array items) = some r ↔ ReferenceArray r (.array items) := by
  have h : decode? (.array items) = some r ↔ items.length ≤ 2 ∧
      fields ⟨record, record.fields.zip items, true⟩ = .ok r := by
    rw [decode?_of_not_object rfl, toOption_eq_some]
    exact Fields.decode_array_eq_ok rfl
  rw [h, fields_eq_ok, (get?_zip_items items).1, (get?_zip_items items).2]
  constructor
  · rintro ⟨hlength, hfields⟩
    exact ⟨items, rfl, hlength, hfields⟩
  · rintro ⟨_, ⟨⟩, hlength, hfields⟩
    exact ⟨hlength, hfields⟩

theorem decode?_eq_some_iff {v : Value} {r : FactReference} :
    decode? v = some r ↔ ReferenceObject r v ∨ ReferenceArray r v := by
  cases v with
  | object ms =>
    rw [decode?_object]
    constructor
    · exact Or.inl
    · rintro (h | ⟨_, ⟨⟩, _⟩)
      exact h
  | array items =>
    rw [decode?_array]
    constructor
    · exact Or.inr
    · rintro (⟨_, ⟨⟩, _⟩ | h)
      exact h
  | _ =>
    constructor
    · intro h
      rw [decode?_of_not_object rfl, toOption_eq_some] at h
      exact absurd h (Fields.decode_ne_ok rfl rfl)
    · rintro (⟨_, ⟨⟩, _⟩ | ⟨_, ⟨⟩, _⟩)

end FactReference

namespace Operand

theorem decode_eq_fact_iff {v : Value} {r : FactReference} :
    decode v = .fact r ↔ ReferenceObject r v ∨ ReferenceArray r v := by
  rw [← FactReference.decode?_eq_some_iff]
  unfold decode
  cases FactReference.decode? v <;> simp

theorem decode_eq_literal_iff {v w : Value} :
    decode v = .literal w ↔ w = v ∧ ∀ r, ¬ (ReferenceObject r v ∨ ReferenceArray r v) := by
  simp only [← FactReference.decode?_eq_some_iff]
  unfold decode
  cases FactReference.decode? v <;> simp [eq_comm]

theorem decode_strings (texts : List String) :
    decode (.strings texts) = match texts with
      | [name] => .fact ⟨name, none⟩
      | [name, path] => .fact ⟨name, some path⟩
      | _ => .literal (.strings texts) := by
  split
  · exact decode_eq_fact_iff.mpr (Or.inr ⟨_, rfl, by simp, rfl, Or.inl rfl⟩)
  · exact decode_eq_fact_iff.mpr (Or.inr ⟨_, rfl, by simp, rfl, rfl⟩)
  · rename_i hone htwo
    apply decode_eq_literal_iff.mpr
    refine ⟨rfl, ?_⟩
    rintro r (⟨_, ⟨⟩, _⟩ | ⟨_, ⟨⟩, hlength, hfact, _⟩)
    rcases texts with _ | ⟨a, _ | ⟨b, _ | ⟨c, rest⟩⟩⟩
    · cases hfact
    · exact hone a rfl
    · exact htwo a b rfl
    · simp at hlength

end Operand

namespace Comparison

/-- The member of a comparison's document that its operand is read from. -/
def operandMember? : Value → Option Value
  | .object ms => Entries.get? "value" ms
  | .array items => items[2]?
  | _ => none

theorem operand_of_fields {s : Source} {c : Comparison} (h : fields s = .ok c) :
    c.operand = ((Entries.get? "value" s.present).map Operand.decode).getD (.literal .null) := by
  unfold fields at h
  simp only [Fields.seq_eq_ok, Fields.map_eq_ok] at h
  obtain ⟨_, path, ⟨_, operand, ⟨_, operator, ⟨fact, -, rfl⟩, -, rfl⟩, ho, rfl⟩, -, rfl⟩ :=
    h
  have ho := Fields.withDefault_eq_ok.mp ho
  change operand = _
  cases hv : Entries.get? "value" s.present <;> simp_all

theorem get?_zip_items (items : List Value) :
    Entries.get? "value" (record.fields.zip items) = items[2]? := by
  rcases items with _ | ⟨a, _ | ⟨b, _ | ⟨c, rest⟩⟩⟩ <;> simp [record]

theorem operand_of_decode? {v : Value} {c : Comparison} (h : decode? v = some c) :
    c.operand = ((operandMember? v).map Operand.decode).getD (.literal .null) := by
  have h := toOption_eq_some.mp h
  cases v with
  | object ms => exact operand_of_fields (Fields.decode_object_eq_ok.mp h)
  | array items =>
    have ho := operand_of_fields ((Fields.decode_array_eq_ok rfl).mp h).2
    rwa [get?_zip_items] at ho
  | _ => exact absurd h (Fields.decode_ne_ok rfl rfl)

end Comparison

theorem equalValues_string (v : Value) (text : String) :
    equalValues v (.string text) = decide (v = .string text) := by
  unfold equalValues
  cases v with
  | string s => simp [Value.units?, Value.same, Bool.beq_eq_decide_eq]
  | _ => simp [Value.units?, Value.same]

theorem isElement_strings (v : Value) (texts : List String) :
    isElement v (.strings texts) = decide (∃ text ∈ texts, v = .string text) := by
  have h : isElement v (.strings texts) = true ↔ ∃ text ∈ texts, v = .string text := by
    simp [isElement, Value.strings, equalValues_string]
  by_cases hm : ∃ text ∈ texts, v = .string text
  · rw [h.mpr hm, decide_eq_true hm]
  · rw [decide_eq_false hm, Bool.eq_false_iff]
    exact fun he => hm (h.mp he)

namespace Engine
open Calendar
variable {e : Engine}

theorem compare_in {format : DateFormat} (he : e.operators = .standard format) (facts : Facts)
    (name : String) (path : Option String) (operand : Operand) :
    e.compare facts ⟨name, "in", operand, path⟩ = do
      let fact ← e.factValue facts name path
      let value ← e.operandValue facts operand
      return isElement fact value := by
  have hop : e.operators.get? "in" = some ⟨"in", OperatorSet.anyValue, isElement⟩ := by
    rw [he]
    exact OperatorSet.get?_standard (by simp [OperatorSet.builtin])
  unfold compare
  rw [hop]
  rfl

/-- One text or two as the value of `in` are looked up as a fact; no text, or three and more,
are the texts to be among. -/
theorem compare_in_strings {format : DateFormat} (he : e.operators = .standard format)
    (facts : Facts) (name : String) (path : Option String) (texts : List String) :
    e.compare facts ⟨name, "in", Operand.decode (.strings texts), path⟩ =
      match texts with
      | [other] => do
        let fact ← e.factValue facts name path
        let value ← e.factValue facts other none
        return isElement fact value
      | [other, selector] => do
        let fact ← e.factValue facts name path
        let value ← e.factValue facts other (some selector)
        return isElement fact value
      | _ => do
        let fact ← e.factValue facts name path
        return decide (∃ text ∈ texts, fact = .string text) := by
  rw [compare_in he, Operand.decode_strings]
  split
  · rfl
  · rfl
  · simp only [operandValue, ← isElement_strings]
    rfl

end Engine

/-- An operand is a reference just if its document has the form of one, as an object or as an
array, and is the document itself otherwise; so objects alone are references just where the
document is no array of one text, or of a text and a second text or `null`.  As the value of
`in` these arrays are looked up, and only other lists of texts are what a fact may be among. -/
theorem operand_forms (v : Value) (format : Calendar.DateFormat) (allow : Bool) (facts : Facts)
    (name : String) (path : Option String) (texts : List String) :
    (∀ r, Operand.decode v = .fact r ↔ ReferenceObject r v ∨ ReferenceArray r v) ∧
      (Operand.decode v = .literal v ↔ ∀ r, ¬ (ReferenceObject r v ∨ ReferenceArray r v)) ∧
      ((∀ r, Operand.decode v = .fact r ↔ ReferenceObject r v) ↔ ∀ r, ¬ ReferenceArray r v) ∧
      (∀ r, ReferenceArray r v ↔
        (v = .array [.string r.fact] ∧ r.path = none) ∨
        (v = .array [.string r.fact, .null] ∧ r.path = none) ∨
        ∃ path, v = .array [.string r.fact, .string path] ∧ r.path = some path) ∧
      (∀ document c, Comparison.decode? document = some c →
        Comparison.operandMember? document = some v → c.operand = Operand.decode v) ∧
      let e : Engine := ⟨.standard format, allow⟩
      e.compare facts ⟨name, "in", Operand.decode (.strings texts), path⟩ =
        match texts with
        | [other] => do
          let fact ← e.factValue facts name path
          let value ← e.factValue facts other none
          return isElement fact value
        | [other, selector] => do
          let fact ← e.factValue facts name path
          let value ← e.factValue facts other (some selector)
          return isElement fact value
        | _ => do
          let fact ← e.factValue facts name path
          return decide (∃ text ∈ texts, fact = .string text) := by
  refine ⟨fun _ => Operand.decode_eq_fact_iff, ?_, ?_, fun _ => referenceArray_iff, ?_, ?_⟩
  · rw [Operand.decode_eq_literal_iff]
    exact and_iff_right rfl
  · simp only [Operand.decode_eq_fact_iff]
    constructor
    · intro h r ha
      exact not_referenceObject_of_array ha ((h r).mp (Or.inr ha))
    · intro h r
      exact or_iff_left (h r)
  · intro document c hc hv
    have ho := Comparison.operand_of_decode? hc
    rwa [hv] at ho
  · exact Engine.compare_in_strings rfl facts name path texts

theorem operand_forms_one_text :
    let document : Value := .object
      [("fact", .string "permitType"), ("operator", .string "in"), ("value", .strings ["TROS"])]
    let c : Comparison := ⟨"permitType", "in", .fact ⟨"TROS", none⟩, none⟩
    Comparison.decode? document = some c ∧
      Comparison.operandMember? document = some (.strings ["TROS"]) ∧
      c.operand = Operand.decode (.strings ["TROS"]) := by
  intro document c
  have hc : Comparison.decode? document = some c := by decide
  have hv : Comparison.operandMember? document = some (.strings ["TROS"]) := rfl
  have h := operand_forms (.strings ["TROS"]) .standard false .empty "permitType" none ["TROS"]
  exact ⟨hc, hv, h.2.2.2.2.1 document c hc hv⟩

/-- A list of one text is no object, is a reference all the same, and makes `in` fail where
the text names no fact. -/
theorem one_text_is_no_literal :
    ¬ (∀ v, (∃ r, Operand.decode v = .fact r) ↔ ∃ r, ReferenceObject r v) ∧
      Engine.compare ⟨.standard .standard, false⟩ (.ofList [("permitType", .string "TROS")])
          ⟨"permitType", "in", Operand.decode (.strings ["TROS"]), none⟩ =
        .error (.undefinedFact "TROS") := by
  constructor
  · intro h
    have hfact : Operand.decode (.strings ["TROS"]) = .fact ⟨"TROS", none⟩ :=
      Operand.decode_strings ["TROS"]
    obtain ⟨_, _, ⟨⟩, _⟩ := (h _).mp ⟨_, hfact⟩
  · exact Engine.compare_in_strings rfl _ _ _ ["TROS"]

end PermitPolicy
