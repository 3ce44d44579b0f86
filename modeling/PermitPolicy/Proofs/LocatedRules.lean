import PermitPolicy.Proofs.DefinitionDefects
import PermitPolicy.Proofs.Records

/-! Rules that do not decode.  The rules of a document are read one by one before the whole of it,
so that a faulty one is named by its place.  Whatever decodes as a definition has none, so that
this search refuses nothing else; and where there is one, the first is what is reported. -/

namespace PermitPolicy
open Json
set_option autoImplicit false

namespace Json
variable {α : Type} {item : Decoder α}

theorem Decoder.exists_of_mapM_eq_ok {vs : List Value} {as : List α} (h : vs.mapM item = .ok as)
    {v : Value} (hv : v ∈ vs) : ∃ a, item v = .ok a := by
  induction vs generalizing as with
  | nil => cases hv
  | cons w vs ih =>
    rw [List.mapM_cons] at h
    obtain ⟨a, ha, h⟩ := bind_eq_ok.mp h
    obtain ⟨rest, hrest, -⟩ := bind_eq_ok.mp h
    rcases List.mem_cons.mp hv with rfl | hv
    · exact ⟨a, ha⟩
    · exact ih hrest hv

theorem Fields.exists_of_withDefault_list {name : String} {s : Source} {as default : List α}
    (h : withDefault name default (.list item) s = .ok as) {v : Value}
    (hv : Entries.get? name s.present = some v) {i : Nat} {element : Value}
    (he : v.at? i = some element) : ∃ a, item element = .ok a := by
  rw [withDefault_eq_ok, hv] at h
  cases v with
  | array vs => exact Decoder.exists_of_mapM_eq_ok h (List.mem_of_getElem? he)
  | _ => cases h

end Json

theorem pairwise_mapIdx {α β : Type} {R : β → β → Prop} {f : Nat → α → β}
    (h : ∀ i j a b, i < j → R (f i a) (f j b)) (l : List α) : (l.mapIdx f).Pairwise R := by
  apply List.pairwise_iff_getElem.mpr
  intro i j hi hj hij
  rw [List.getElem_mapIdx, List.getElem_mapIdx]
  exact h i j _ _ hij

theorem map_mapIdx {α β γ : Type} (f : Nat → α → β) (g : β → γ) (l : List α) :
    (l.mapIdx f).map g = l.mapIdx fun i a => g (f i a) := by
  apply List.ext_getElem?
  intro i
  rw [List.getElem?_map, List.getElem?_mapIdx, List.getElem?_mapIdx, Option.map_map]
  rfl

/-- Where a rule stands in the document of a definition. -/
inductive RulePlace where
  | common (index : Nat)
  | ofType (type index : Nat)
deriving DecidableEq

namespace RulePlace

def typeAt? (v : Value) (type : Nat) : Option Value := (v.get? "permitTypes").bind (·.at? type)

def rule? (v : Value) : RulePlace → Option Value
  | .common index => (v.get? "commonRules").bind (·.at? index)
  | .ofType type index =>
    (typeAt? v type).bind fun t => (t.get? "rules").bind (·.at? index)

/-- A place as an error names it: a permit type goes by its id. -/
def location (v : Value) : RulePlace → String
  | .common index => s!"commonRules[{index}]"
  | .ofType type index =>
    let id := ((typeAt? v type).bind fun t => (t.get? "id").bind Value.string?).getD "?"
    s!"permitTypes[{id}].rules[{index}]"

theorem location_ofType {v t : Value} {type : Nat} (h : typeAt? v type = some t) (index : Nat) :
    (ofType type index).location v =
      let id := ((t.get? "id").bind Value.string?).getD "?"
      s!"permitTypes[{id}].rules[{index}]" := by
  have hid : ((typeAt? v type).bind fun t => (t.get? "id").bind Value.string?).getD "?" =
      ((t.get? "id").bind Value.string?).getD "?" := by
    rw [h]
    rfl
  exact congrArg (fun id : String => s!"permitTypes[{id}].rules[{index}]") hid

/-- Common rules come first, then those of each permit type in turn. -/
inductive Before : RulePlace → RulePlace → Prop
  | common {i j : Nat} (h : i < j) : Before (.common i) (.common j)
  | commonFirst {i t j : Nat} : Before (.common i) (.ofType t j)
  | types {t u i j : Nat} (h : t < u) : Before (.ofType t i) (.ofType u j)
  | rules {t i j : Nat} (h : i < j) : Before (.ofType t i) (.ofType t j)

theorem Before.asymm {p q : RulePlace} (h : Before p q) : ¬ Before q p := by
  intro h'
  cases h <;> cases h' <;> omega

end RulePlace

namespace Definition
open RulePlace

theorem getElem?_elements (key : String) (v : Value) (i : Nat) :
    (elements key v)[i]? = (v.get? key).bind (·.at? i) := by
  unfold elements
  cases v.get? key with
  | none => rfl
  | some w => cases w <;> rfl

theorem mem_mapIdx_elements {β : Type} {f : Nat → Value → β} {key : String} {v : Value} {b : β} :
    b ∈ (elements key v).mapIdx f ↔
      ∃ i element, (v.get? key).bind (·.at? i) = some element ∧ f i element = b := by
  simp only [← getElem?_elements, List.mem_mapIdx, List.getElem?_eq_some_iff]
  constructor
  · rintro ⟨i, hi, h⟩
    exact ⟨i, _, ⟨hi, rfl⟩, h⟩
  · rintro ⟨i, _, ⟨hi, rfl⟩, h⟩
    exact ⟨i, hi, h⟩

/-- The rules of a document with their places, in the order in which they are tried. -/
def placedRules (v : Value) : List (RulePlace × Value) :=
  ((elements "commonRules" v).mapIdx fun i r => (.common i, r)) ++
    ((elements "permitTypes" v).mapIdx fun t u =>
      (elements "rules" u).mapIdx fun i r => (.ofType t i, r)).flatten

theorem mem_placedRules {v : Value} {place : RulePlace} {rule : Value} :
    (place, rule) ∈ placedRules v ↔ place.rule? v = some rule := by
  constructor
  · intro h
    rcases List.mem_append.mp h with h | h
    · obtain ⟨i, r, hr, ⟨⟩⟩ := mem_mapIdx_elements.mp h
      exact hr
    · obtain ⟨_, hl, h⟩ := List.mem_flatten.mp h
      obtain ⟨t, u, hu, rfl⟩ := mem_mapIdx_elements.mp hl
      obtain ⟨i, r, hr, ⟨⟩⟩ := mem_mapIdx_elements.mp h
      exact Option.bind_eq_some_iff.mpr ⟨u, hu, hr⟩
  · intro h
    apply List.mem_append.mpr
    cases place with
    | common i => exact Or.inl (mem_mapIdx_elements.mpr ⟨i, rule, h, rfl⟩)
    | ofType t i =>
      obtain ⟨u, hu, hr⟩ := Option.bind_eq_some_iff.mp h
      refine Or.inr (List.mem_flatten.mpr ⟨_, mem_mapIdx_elements.mpr ⟨t, u, hu, rfl⟩, ?_⟩)
      exact mem_mapIdx_elements.mpr ⟨i, rule, hr, rfl⟩

theorem pairwise_placedRules (v : Value) :
    (placedRules v).Pairwise fun a b => a.1.Before b.1 := by
  apply List.pairwise_append.mpr
  refine ⟨pairwise_mapIdx (fun i j _ _ hij => .common hij) _, ?_, ?_⟩
  · apply List.pairwise_flatten.mpr
    constructor
    · intro l hl
      obtain ⟨t, u, -, rfl⟩ := mem_mapIdx_elements.mp hl
      exact pairwise_mapIdx (fun i j _ _ hij => .rules hij) _
    · apply pairwise_mapIdx
      intro t u a b htu x hx y hy
      obtain ⟨i, r, -, rfl⟩ := mem_mapIdx_elements.mp hx
      obtain ⟨j, r', -, rfl⟩ := mem_mapIdx_elements.mp hy
      exact .types htu
  · intro x hx y hy
    obtain ⟨i, r, -, rfl⟩ := mem_mapIdx_elements.mp hx
    obtain ⟨l, hl, hy⟩ := List.mem_flatten.mp hy
    obtain ⟨t, u, -, rfl⟩ := mem_mapIdx_elements.mp hl
    obtain ⟨j, r', -, rfl⟩ := mem_mapIdx_elements.mp hy
    exact .commonFirst

theorem locatedRules_eq (v : Value) :
    locatedRules v = (placedRules v).map fun (place, rule) => (place.location v, rule) := by
  rw [placedRules, List.map_append, map_mapIdx, List.map_flatten, map_mapIdx, locatedRules,
    List.flatMap_def]
  congr 2
  apply List.ext_getElem?
  intro t
  rw [List.getElem?_map, List.getElem?_mapIdx]
  cases ht : (elements "permitTypes" v)[t]? with
  | none => rfl
  | some u =>
    have hu : typeAt? v t = some u := by
      rw [← ht, getElem?_elements]
      rfl
    simp only [Option.map_some, map_mapIdx, location_ofType hu]

theorem exists_describeRule (location : String) (rule : Value) :
    ∃ name, describeRule location rule = location ++ name := by
  unfold describeRule
  cases (rule.get? "name").bind Value.string? with
  | none => exact ⟨"", String.append_empty.symm⟩
  | some name => exact ⟨" '" ++ (name ++ "'"), by simp [toString, String.append_assoc]⟩

/-- All rules of the document decode. -/
def RulesRead (v : Value) : Prop :=
  ∀ (place : RulePlace) (rule : Value), place.rule? v = some rule → ∃ r, Rule.decode rule = .ok r

/-- The rule at the place does not decode, and all rules before it do. -/
structure FirstMalformed (v : Value) (place : RulePlace) (rule : Value) (cause : DecodeError) :
    Prop where
  stands : place.rule? v = some rule
  fails : Rule.decode rule = .error cause
  earlier : ∀ (q : RulePlace) (r : Value), q.Before place → q.rule? v = some r →
    ∃ a, Rule.decode r = .ok a

def faultOf? (v : Value) (a : RulePlace × Value) : Option PolicyError :=
  match Rule.decode a.2 with
  | .error cause => some (.invalidRule (describeRule (a.1.location v) a.2) cause)
  | .ok _ => none

theorem faultOf?_eq_none_iff {v : Value} {a : RulePlace × Value} :
    faultOf? v a = none ↔ ∃ r, Rule.decode a.2 = .ok r := by
  unfold faultOf?
  cases Rule.decode a.2 <;> simp

theorem faultOf?_eq_some_iff {v : Value} {a : RulePlace × Value} {e : PolicyError} :
    faultOf? v a = some e ↔ ∃ cause, Rule.decode a.2 = .error cause ∧
      e = .invalidRule (describeRule (a.1.location v) a.2) cause := by
  unfold faultOf?
  cases Rule.decode a.2 <;> simp [eq_comm]

theorem malformedRule?_eq (v : Value) :
    malformedRule? v = (placedRules v).findSome? (faultOf? v) := by
  rw [malformedRule?, locatedRules_eq, List.findSome?_map]
  rfl

theorem malformedRule?_eq_none_iff {v : Value} : malformedRule? v = none ↔ RulesRead v := by
  simp only [malformedRule?_eq, List.findSome?_eq_none_iff, faultOf?_eq_none_iff, Prod.forall,
    mem_placedRules, RulesRead]

theorem malformedRule?_eq_some_iff {v : Value} {e : PolicyError} :
    malformedRule? v = some e ↔ ∃ place rule cause, FirstMalformed v place rule cause ∧
      e = .invalidRule (describeRule (place.location v) rule) cause := by
  have hpairwise := pairwise_placedRules v
  rw [malformedRule?_eq, List.findSome?_eq_some_iff]
  constructor
  · rintro ⟨before, ⟨place, rule⟩, after, heq, hfault, hbefore⟩
    obtain ⟨cause, hcause, rfl⟩ := faultOf?_eq_some_iff.mp hfault
    rw [heq] at hpairwise
    obtain ⟨-, hafter, -⟩ := List.pairwise_append.mp hpairwise
    refine ⟨place, rule, cause, ⟨?_, hcause, ?_⟩, rfl⟩
    · apply mem_placedRules.mp
      simp [heq]
    · intro q r hq hr
      have hmem := mem_placedRules.mpr hr
      rw [heq, List.mem_append, List.mem_cons] at hmem
      rcases hmem with hmem | hmem | hmem
      · exact faultOf?_eq_none_iff.mp (hbefore _ hmem)
      · cases hmem
        exact absurd hq hq.asymm
      · exact absurd hq ((List.pairwise_cons.mp hafter).1 _ hmem).asymm
  · rintro ⟨place, rule, cause, hfirst, rfl⟩
    obtain ⟨before, after, heq⟩ := List.append_of_mem (mem_placedRules.mpr hfirst.stands)
    refine ⟨before, (place, rule), after, heq, ?_, ?_⟩
    · exact faultOf?_eq_some_iff.mpr ⟨cause, hfirst.fails, rfl⟩
    · intro ⟨q, r⟩ hmem
      have hr : (q, r) ∈ placedRules v := by
        rw [heq]
        exact List.mem_append_left _ hmem
      rw [heq] at hpairwise
      have hq := (List.pairwise_append.mp hpairwise).2.2 _ hmem _ List.mem_cons_self
      exact faultOf?_eq_none_iff.mpr (hfirst.earlier q r hq (mem_placedRules.mp hr))

-- A permit type in array form has no rules here: only the decoder of the whole reads them.
example : malformedRule? (.object [("permitTypes", .array [
    .array [.string "STOS", .string "", .null, .null, .null, .null, .null, .array [.null]],
    .object [("id", .string "TROS"), ("rules", .array [.null])]])]) =
      some (.invalidRule "permitTypes[TROS].rules[0]" (.wrongType .null (.record "Rule"))) := by
  decide

theorem exists_firstMalformed {v : Value} (h : ¬ RulesRead v) :
    ∃ place rule cause, FirstMalformed v place rule cause := by
  rw [← malformedRule?_eq_none_iff] at h
  obtain ⟨e, he⟩ := Option.ne_none_iff_exists'.mp h
  obtain ⟨place, rule, cause, hfirst, -⟩ := malformedRule?_eq_some_iff.mp he
  exact ⟨place, rule, cause, hfirst⟩

theorem FirstMalformed.not_rulesRead {v : Value} {place : RulePlace} {rule : Value}
    {cause : DecodeError} (h : FirstMalformed v place rule cause) : ¬ RulesRead v := by
  intro hr
  obtain ⟨r, hread⟩ := hr place rule h.stands
  rw [h.fails] at hread
  cases hread

/-- The rules of a permit type that decodes do so one by one, if it is an object. -/
theorem exists_rule_of_permitType {u rules : Value} {t : PermitType}
    (h : PermitType.decode u = .ok t) (hu : u.get? "rules" = some rules) {i : Nat} {rule : Value}
    (hi : rules.at? i = some rule) : ∃ r, Rule.decode rule = .ok r := by
  cases u with
  | object ms =>
    obtain ⟨_, _, -, hrules, -⟩ := Fields.seq_eq_ok.mp (Fields.decode_object_eq_ok.mp h)
    exact Fields.exists_of_withDefault_list hrules hu hi
  | _ => cases hu

theorem rulesRead_of_decode {v : Value} (ho : v.isObject = true) {d : Definition}
    (h : decode v = .ok d) : RulesRead v := by
  cases v with
  | object ms =>
    obtain ⟨_, _, h, -⟩ := Fields.seq_eq_ok.mp (Fields.decode_object_eq_ok.mp h)
    obtain ⟨_, _, h, -⟩ := Fields.seq_eq_ok.mp h
    obtain ⟨_, _, h, -⟩ := Fields.seq_eq_ok.mp h
    obtain ⟨_, _, h, -⟩ := Fields.seq_eq_ok.mp h
    obtain ⟨_, _, h, -⟩ := Fields.seq_eq_ok.mp h
    obtain ⟨_, types, h, htypes, -⟩ := Fields.seq_eq_ok.mp h
    obtain ⟨_, commonRules, -, hcommon, -⟩ := Fields.seq_eq_ok.mp h
    intro place rule hrule
    cases place with
    | common i =>
      obtain ⟨rules, hrules, hi⟩ := Option.bind_eq_some_iff.mp hrule
      exact Fields.exists_of_withDefault_list hcommon hrules hi
    | ofType t i =>
      obtain ⟨u, hu, hrule⟩ := Option.bind_eq_some_iff.mp hrule
      obtain ⟨units, hunits, ht⟩ := Option.bind_eq_some_iff.mp hu
      obtain ⟨rules, hrules, hi⟩ := Option.bind_eq_some_iff.mp hrule
      obtain ⟨type, htype⟩ := Fields.exists_of_withDefault_list htypes hunits ht
      exact exists_rule_of_permitType htype hrules hi
  | _ => cases ho

end Definition

namespace Policy
open Calendar Definition

/-- Why a document is no policy. -/
inductive Refusal (v : Value) : PolicyError → Prop
  | notAnObject (h : v.isObject = false) : Refusal v .notAnObject
  | invalidRule (ho : v.isObject = true) (hd : ∀ d, Definition.decode v ≠ .ok d)
      {place : RulePlace} {rule : Value} {cause : DecodeError}
      (h : FirstMalformed v place rule cause) :
      Refusal v (.invalidRule (describeRule (place.location v) rule) cause)
  | malformed (ho : v.isObject = true) (hr : RulesRead v) {cause : DecodeError}
      (h : Definition.decode v = .error cause) : Refusal v (.malformed cause)
  | defect (ho : v.isObject = true) (hr : RulesRead v) {d : Definition} {e : PolicyError}
      (hd : Definition.decode v = .ok d) (h : d.Defect e) : Refusal v e

section
variable {v : Value} {today : Date}

theorem ofValue_of_not_object (ho : v.isObject = false) :
    ofValue v today = .error .notAnObject := by
  rw [ofValue, ho]
  rfl

theorem ofValue_of_firstMalformed (ho : v.isObject = true) {place : RulePlace} {rule : Value}
    {cause : DecodeError} (h : FirstMalformed v place rule cause) : ofValue v today =
      .error (.invalidRule (describeRule (place.location v) rule) cause) := by
  have hrule := malformedRule?_eq_some_iff.mpr ⟨place, rule, cause, h, rfl⟩
  rw [ofValue, ho, hrule]
  rfl

theorem ofValue_of_rulesRead (ho : v.isObject = true) (hr : RulesRead v) : ofValue v today =
    match Definition.decode v with
    | .error cause => .error (.malformed cause)
    | .ok d => build d today := by
  have hrule := malformedRule?_eq_none_iff.mpr hr
  rw [ofValue, ho, hrule]
  rfl

/-- The search for malformed rules refuses no definition that decodes. -/
theorem ofValue_of_decode (ho : v.isObject = true) {d : Definition}
    (hd : Definition.decode v = .ok d) : ofValue v today = build d today := by
  rw [ofValue_of_rulesRead ho (rulesRead_of_decode ho hd), hd]

theorem ofValue_eq_ok {p : Policy} : ofValue v today = .ok p ↔
    v.isObject = true ∧ ∃ d, Definition.decode v = .ok d ∧ build d today = .ok p := by
  constructor
  · intro h
    cases ho : v.isObject with
    | false =>
      rw [ofValue_of_not_object ho] at h
      cases h
    | true =>
      by_cases hr : RulesRead v
      · rw [ofValue_of_rulesRead ho hr] at h
        cases hd : Definition.decode v with
        | error cause =>
          rw [hd] at h
          cases h
        | ok d =>
          rw [hd] at h
          exact ⟨rfl, d, rfl, h⟩
      · obtain ⟨place, rule, cause, hfirst⟩ := exists_firstMalformed hr
        rw [ofValue_of_firstMalformed ho hfirst] at h
        cases h
  · rintro ⟨ho, d, hd, hp⟩
    rw [ofValue_of_decode ho hd, hp]

theorem ofValue_eq_error {e : PolicyError} : ofValue v today = .error e ↔ Refusal v e := by
  constructor
  · intro h
    cases ho : v.isObject with
    | false =>
      rw [ofValue_of_not_object ho] at h
      cases h
      exact .notAnObject ho
    | true =>
      by_cases hr : RulesRead v
      · rw [ofValue_of_rulesRead ho hr] at h
        cases hd : Definition.decode v with
        | error cause =>
          rw [hd] at h
          cases h
          exact .malformed ho hr hd
        | ok d =>
          rw [hd] at h
          exact .defect ho hr hd (build_eq_error.mp h)
      · obtain ⟨place, rule, cause, hfirst⟩ := exists_firstMalformed hr
        rw [ofValue_of_firstMalformed ho hfirst] at h
        cases h
        exact .invalidRule ho (fun d hd => hr (rulesRead_of_decode ho hd)) hfirst
  · intro h
    cases h with
    | notAnObject ho => exact ofValue_of_not_object ho
    | invalidRule ho _ hfirst => exact ofValue_of_firstMalformed ho hfirst
    | malformed ho hr hd => rw [ofValue_of_rulesRead ho hr, hd]
    | defect ho _ hd h => rw [ofValue_of_decode ho hd, build_eq_error.mpr h]

end

/-- A document is a policy exactly when it is an object and decodes as a definition of which a
policy can be built.  Of a refused object the first malformed rule is reported if there is one,
whatever else is wrong with it, in a text that begins with its place. -/
theorem ofValue_iff (v : Value) (today : Date) :
    (∀ p, ofValue v today = .ok p ↔
      v.isObject = true ∧ ∃ d, Definition.decode v = .ok d ∧ build d today = .ok p) ∧
    (∀ e, ofValue v today = .error e ↔ Refusal v e) ∧
    (v.isObject = true ∧ ¬ RulesRead v ↔
      ∃ place rule cause, FirstMalformed v place rule cause ∧ ofValue v today =
        .error (.invalidRule (describeRule (place.location v) rule) cause)) ∧
    ∀ (place : RulePlace) (rule : Value),
      ∃ name, describeRule (place.location v) rule = place.location v ++ name := by
  refine ⟨fun p => ofValue_eq_ok, fun e => ofValue_eq_error, ?_,
    fun place rule => exists_describeRule _ rule⟩
  constructor
  · rintro ⟨ho, hr⟩
    obtain ⟨place, rule, cause, hfirst⟩ := exists_firstMalformed hr
    exact ⟨place, rule, cause, hfirst, ofValue_of_firstMalformed ho hfirst⟩
  · rintro ⟨place, rule, cause, hfirst, herror⟩
    cases ho : v.isObject with
    | false =>
      rw [ofValue_of_not_object ho] at herror
      cases herror
    | true => exact ⟨rfl, hfirst.not_rulesRead⟩

end Policy
end PermitPolicy
