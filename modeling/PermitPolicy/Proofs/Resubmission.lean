import Mathlib.Logic.Relation
import PermitPolicy.Proofs.TypedDocuments

/-! Documents that come to the same completed document.  A document may be laid over the empty
application beforehand, and members that tell nothing, which are fields with `null` and sections
that are no objects, may be left out: facts and report stay as they are. -/

namespace PermitPolicy
open Json Calendar
set_option autoImplicit false

namespace Json.Value

/-- A document without the member that keys lead to. -/
def remove : List String → Value → Value
  | [], v => v
  | [key], .object ms => .object (ms.filter fun m => m.1 ≠ key)
  | key :: keys, .object ms =>
    .object (ms.map fun m => (m.1, if m.1 = key then remove keys m.2 else m.2))
  | _ :: _, v => v

theorem remove_of_not_object {v : Value} (h : v.isObject = false) (path : List String) :
    remove path v = v := by
  cases path with
  | nil => rfl
  | cons key keys =>
    cases v with
    | object ms => cases h
    | _ => cases keys <;> rfl

theorem remove_singleton (key : String) (ms : List (String × Value)) :
    remove [key] (.object ms) = .object (ms.filter fun m => m.1 ≠ key) := rfl

theorem remove_cons (key : String) {keys : List String} (hk : keys ≠ [])
    (ms : List (String × Value)) :
    remove (key :: keys) (.object ms) =
      .object (ms.map fun m => (m.1, if m.1 = key then remove keys m.2 else m.2)) := by
  cases keys with
  | nil => exact absurd rfl hk
  | cons _ _ => rfl

theorem canonical_remove {d : Value} (hd : d.Canonical) (path : List String) :
    (remove path d).Canonical := by
  induction path generalizing d with
  | nil => exact hd
  | cons key keys ih =>
    cases d with
    | object ms =>
      obtain ⟨hs, hm⟩ := (canonical_object_iff ms).mp hd
      by_cases hk : keys = []
      · subst hk
        apply (canonical_object_iff _).mpr
        exact ⟨hs.filter _, fun m hmem => hm m (List.mem_filter.mp hmem).1⟩
      · rw [remove_cons key hk, canonical_object_iff]
        refine ⟨sorted_map hs fun k v => if k = key then remove keys v else v, ?_⟩
        intro m hmem
        obtain ⟨n, hn, rfl⟩ := List.mem_map.mp hmem
        dsimp only
        split
        · exact ih (hm n hn)
        · exact hm n hn
    | _ => rwa [remove_of_not_object rfl]

theorem get?_remove (key : String) (keys : List String) (d : Value) :
    (remove (key :: keys) d).get? key =
      if keys = [] then none else (d.get? key).map (remove keys) := by
  cases d with
  | object ms =>
    by_cases hk : keys = []
    · subst hk
      rw [remove_singleton, get?_object, Entries.get?_filter key fun k => decide (k ≠ key)]
      simp
    · rw [remove_cons key hk, get?_object,
        Entries.get?_map key fun k v => if k = key then remove keys v else v]
      simp [hk]
  | _ =>
    rw [remove_of_not_object rfl]
    split <;> rfl

theorem get?_remove_of_ne {key k : String} (h : k ≠ key) (keys : List String) (d : Value) :
    (remove (key :: keys) d).get? k = d.get? k := by
  cases d with
  | object ms =>
    by_cases hk : keys = []
    · subst hk
      rw [remove_singleton, get?_object, Entries.get?_filter k fun k => decide (k ≠ key)]
      simp [h]
    · rw [remove_cons key hk, get?_object,
        Entries.get?_map k fun k v => if k = key then remove keys v else v]
      simp [h]
  | _ => rw [remove_of_not_object rfl]

theorem overlay_ext {slots : Entries Value} (hb : Canonical (.object slots)) {d e : Value}
    (hd : d.Canonical) (he : e.Canonical)
    (h : ∀ key, ((Value.object slots).overlay d).get? key =
      ((Value.object slots).overlay e).get? key) :
    (Value.object slots).overlay d = (Value.object slots).overlay e := by
  have hobject : ∀ {d : Value}, d.Canonical →
      ∃ ms, (Value.object slots).overlay d = .object ms ∧ Entries.Sorted ms := by
    intro d hd
    have hlaid := canonical_overlay d hb hd
    rw [overlay_object] at hlaid ⊢
    cases d <;> exact ⟨_, rfl, hlaid.sorted⟩
  obtain ⟨ms, hms, hs⟩ := hobject hd
  obtain ⟨ns, hns, hs'⟩ := hobject he
  rw [hms, hns] at h ⊢
  exact congrArg Value.object (Entries.ext_get? hs hs' h)

/-- A member that changes nothing where it is laid may be left out. -/
theorem overlay_remove {base d slot : Value} (hb : base.Canonical) (hd : d.Canonical)
    {path : List String} (hne : path ≠ []) (hslot : base.descend? path = some slot)
    (hv : ∀ v, d.descend? path = some v → slot.overlay v = slot) :
    base.overlay (remove path d) = base.overlay d := by
  induction path generalizing base d with
  | nil => exact absurd rfl hne
  | cons key keys ih =>
    obtain ⟨inner, hinner, hrest⟩ := Option.bind_eq_some_iff.mp hslot
    cases base with
    | object slots =>
      have hremoved := canonical_remove hd (key :: keys)
      apply overlay_ext hb hremoved hd
      intro k
      rw [get?_overlay_object hremoved, get?_overlay_object hd]
      by_cases hk : k = key
      · subst hk
        rw [get?_remove, ← get?_object, hinner]
        cases hm : d.get? k with
        | none => rw [Option.map_none, ite_self]
        | some v =>
          have hwithin : ∀ w, v.descend? keys = some w → slot.overlay w = slot := by
            intro w hw
            apply hv w
            rw [descend?, hm]
            exact hw
          by_cases hkeys : keys = []
          · subst hkeys
            obtain rfl := Option.some.inj hrest
            exact congrArg some (hwithin v rfl).symm
          · rw [if_neg hkeys]
            exact congrArg some (ih (hb.get? hinner) (hd.get? hm) hkeys hrest hwithin)
      · rw [get?_remove_of_ne hk]
    | _ => cases hinner

end Json.Value

/-- Where an application has sections. -/
def Application.sectionPaths : List (List String) :=
  [["permitData"], ["permitData", "contactDetails"], ["permitData", "vehicleDetails"],
    ["permitData", "mailingAddress"]]

/-- The place of a member that tells nothing. -/
inductive Application.Vacant (d : Value) (path : List String) : Prop where
  | null (hp : path ∈ fieldPaths) (hv : d.descend? path = some .null)
  | notSection (hp : path ∈ sectionPaths) {v : Value} (hv : d.descend? path = some v)
      (ho : v.isObject = false)

def Application.LeavesOut (d e : Value) : Prop := ∃ path, Vacant d path ∧ e = d.remove path

namespace Facts
open Application

theorem object_of_sectionPaths : ∀ path ∈ sectionPaths,
    path ≠ [] ∧ (emptyApplication.descend? path).any Value.isObject = true := by decide

theorem exists_slot {d : Value} {path : List String} (h : Vacant d path) :
    path ≠ [] ∧ ∃ slot, emptyApplication.descend? path = some slot ∧
      ∀ v, d.descend? path = some v → slot.overlay v = slot := by
  cases h with
  | null hp hv =>
    obtain ⟨slot, hslot⟩ := Option.isSome_iff_exists.mp (descend?_emptyApplication path hp).1
    refine ⟨(plain_of_mem_fieldPaths path hp).1, slot, hslot, ?_⟩
    intro v hv'
    obtain rfl := Option.some.inj (hv.symm.trans hv')
    rfl
  | @notSection hp v hv ho =>
    obtain ⟨hne, hobject⟩ := object_of_sectionPaths path hp
    obtain ⟨slot, hslot, hobject⟩ := (Option.any_eq_true ..).mp hobject
    refine ⟨hne, slot, hslot, ?_⟩
    intro v' hv'
    obtain rfl := Option.some.inj (hv.symm.trans hv')
    cases slot with
    | object slots =>
      rw [Value.overlay_object]
      cases v with
      | object ms => cases ho
      | _ => rfl
    | _ => cases hobject

theorem completed_of_leavesOut {d e : Value} (hd : d.Canonical) (h : LeavesOut d e) :
    e.Canonical ∧ completed e = completed d := by
  obtain ⟨path, hvacant, rfl⟩ := h
  obtain ⟨hne, slot, hslot, hv⟩ := exists_slot hvacant
  exact ⟨Value.canonical_remove hd path,
    Value.overlay_remove emptyApplication_canonical hd hne hslot hv⟩

theorem completed_of_reflTransGen {d e : Value} (hd : d.Canonical)
    (h : Relation.ReflTransGen LeavesOut d e) : e.Canonical ∧ completed e = completed d := by
  induction h with
  | refl => exact ⟨hd, rfl⟩
  | tail _ hstep ih =>
    obtain ⟨hc, heq⟩ := completed_of_leavesOut ih.1 hstep
    exact ⟨hc, heq.trans ih.2⟩

/-- The completed document in place of the document, or some members left out of it that tell
nothing. -/
theorem completed_of_same {d e : Value} (hd : d.Canonical)
    (h : e = completed d ∨ Relation.ReflTransGen LeavesOut d e) :
    e.Canonical ∧ completed e = completed d := by
  rcases h with rfl | h
  · exact ⟨completed_canonical hd, Value.overlay_overlay d hd emptyApplication_canonical⟩
  · exact completed_of_reflTransGen hd h

end Facts

namespace Policy
open Facts Application

/-- Documents may be laid over one another in either grouping, `null` and repetition change
nothing, and so an application has the same facts and the same report when it comes completed, or
without members that tell nothing. -/
theorem same_facts_of_completed :
    (∀ b d e : Value, b.Canonical → d.Canonical → e.Canonical →
        (b.overlay d).overlay e = b.overlay (d.overlay e)) ∧
      (∀ b : Value, b.overlay .null = b) ∧ (∀ d : Value, Value.null.overlay d = d) ∧
      (∀ d : Value, d.Canonical → d.overlay d = d) ∧
      (∀ b d : Value, b.Canonical → d.Canonical → (b.overlay d).overlay d = b.overlay d) ∧
      ∀ d e : Value, d.Canonical → e = completed d ∨ Relation.ReflTransGen LeavesOut d e →
        (∀ today format, ofDocument e today format = ofDocument d today format) ∧
          ∀ p : Policy, p.documentFacts e = p.documentFacts d ∧
            p.validateDocument e = p.validateDocument d := by
  refine ⟨?_, ?_, ?_, Value.overlay_self, ?_, ?_⟩
  · intro b d e hb hd he
    exact Value.overlay_assoc hb hd he
  · intro b
    rfl
  · intro d
    cases d <;> rfl
  · intro b d hb hd
    rw [Value.overlay_assoc hb hd hd, Value.overlay_self d hd]
  · intro d e hd h
    obtain ⟨he, hcompleted⟩ := completed_of_same hd h
    have htype : permitTypeId? e = permitTypeId? d := by
      rw [← permitTypeId?_completed he, ← permitTypeId?_completed hd, hcompleted]
    refine ⟨?_, fun p => p.validateDocument_congr hcompleted htype⟩
    intro today format
    unfold ofDocument
    rw [hcompleted]

/-- A field with `null` and a section that is a list, left out one after the other. -/
theorem same_facts_of_completed_sparse :
    let start : Value := .object [("permitData", .object [("startDate", .string "2024-01-01")])]
    let d : Value := .object [("permitData", .object [("companyName", .null),
      ("contactDetails", .array [.string "Ann"]), ("startDate", .string "2024-01-01")])]
    let p : Policy := { definition := { version := "1" }, today := default }
    d.Canonical ∧ Relation.ReflTransGen LeavesOut d start ∧
      ofDocument start default .standard = ofDocument d default .standard ∧
      p.validateDocument (completed d) = p.validateDocument d ∧
      (d.overlay start).overlay d = d.overlay (start.overlay d) := by
  intro start d p
  have hd : d.Canonical := by decide
  have hcompany : LeavesOut d (d.remove ["permitData", "companyName"]) :=
    ⟨_, .null (by decide) rfl, rfl⟩
  have hcontact : LeavesOut (d.remove ["permitData", "companyName"]) start :=
    ⟨["permitData", "contactDetails"], .notSection (by decide) rfl rfl, rfl⟩
  have hsteps : Relation.ReflTransGen LeavesOut d start := .tail (.single hcompany) hcontact
  obtain ⟨hassoc, -, -, -, -, hsame⟩ := same_facts_of_completed
  exact ⟨hd, hsteps, (hsame d start hd (Or.inr hsteps)).1 _ _,
    ((hsame d _ hd (Or.inl rfl)).2 p).2, hassoc d start d hd (by decide) hd⟩

end Policy
end PermitPolicy
