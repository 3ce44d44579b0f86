import PermitPolicy.Proofs.Adjustments
import PermitPolicy.Proofs.AllowedVehicles

/-! Defects of a definition.  A definition is accepted as it is exactly when it is well-formed.
Otherwise the first defect is reported: permit types come before vehicle types and these before
allowed vehicles, and of each kind the one that stands first. -/

namespace PermitPolicy
set_option autoImplicit false

namespace Catalog

/-- The id equals one before it, and no id before it does so. -/
def FirstRepeat (ids : List String) (id : String) : Prop :=
  ∃ before after, ids = before ++ id :: after ∧ before.Nodup ∧ id ∈ before

theorem firstRepeatAfter_append (seen before rest : List String) :
    firstRepeatAfter seen (before ++ rest) =
      (firstRepeatAfter seen before).or (firstRepeatAfter (before.reverse ++ seen) rest) := by
  induction before generalizing seen with
  | nil => rfl
  | cons id before ih =>
    rw [List.cons_append, firstRepeatAfter, firstRepeatAfter]
    split
    · rfl
    · rw [ih, List.reverse_cons, List.append_assoc]
      rfl

theorem exists_of_firstRepeatAfter {seen ids : List String} {id : String}
    (h : firstRepeatAfter seen ids = some id) :
    ∃ before after, ids = before ++ id :: after ∧ firstRepeatAfter seen before = none ∧
      (id ∈ before ∨ id ∈ seen) := by
  induction ids generalizing seen with
  | nil => cases h
  | cons first rest ih =>
    rw [firstRepeatAfter] at h
    split at h
    · rename_i hseen
      cases h
      exact ⟨[], rest, rfl, rfl, Or.inr (by simpa using hseen)⟩
    · rename_i hseen
      obtain ⟨before, after, rfl, hnone, hrepeat⟩ := ih h
      refine ⟨first :: before, after, rfl, ?_, ?_⟩
      · rw [firstRepeatAfter, if_neg hseen, hnone]
      · rcases hrepeat with hid | hid
        · exact Or.inl (List.mem_cons_of_mem _ hid)
        · rcases List.mem_cons.mp hid with rfl | hid
          · exact Or.inl List.mem_cons_self
          · exact Or.inr hid

theorem firstRepeat_eq_some_iff {ids : List String} {id : String} :
    firstRepeat ids = some id ↔ FirstRepeat ids id := by
  constructor
  · intro h
    obtain ⟨before, after, heq, hnone, hrepeat⟩ := exists_of_firstRepeatAfter h
    refine ⟨before, after, heq, firstRepeat_eq_none_iff.mp hnone, ?_⟩
    simpa using hrepeat
  · rintro ⟨before, after, rfl, hnodup, hid⟩
    have hnone : firstRepeatAfter [] before = none := firstRepeat_eq_none_iff.mpr hnodup
    rw [firstRepeat, firstRepeatAfter_append, hnone, firstRepeatAfter, if_pos (by simpa using hid)]
    rfl

end Catalog

namespace Definition

/-- The vehicle is unknown, and those listed before it are known. -/
def FirstUnlisted (known listed : List String) (v : String) : Prop :=
  v ∉ known ∧ ∃ before after, listed = before ++ v :: after ∧ ∀ w ∈ before, w ∈ known

/-- The vehicle is the first unknown one that the permit type allows, and the permit types before
it allow none. -/
structure FirstUnknown (known : List String) (types : List PermitType) (t : PermitType)
    (v : String) : Prop where
  place : ∃ before after, types = before ++ t :: after ∧
    ∀ u ∈ before, ∀ w ∈ u.allowedVehicles, w ∈ known
  vehicle : FirstUnlisted known t.allowedVehicles v

theorem find?_eq_some_iff_firstUnlisted {known listed : List String} {v : String} :
    listed.find? (fun w => !known.contains w) = some v ↔ FirstUnlisted known listed v := by
  simp [List.find?_eq_some_iff_append, FirstUnlisted]

theorem unknownVehicle?_eq_some_iff {known : List String} {types : List PermitType}
    {e : String × String} :
    unknownVehicle? known types = some e ↔
      ∃ t v, FirstUnknown known types t v ∧ e = (t.id, v) := by
  rw [unknownVehicle?_eq, List.findSome?_eq_some_iff]
  constructor
  · rintro ⟨before, t, after, heq, hfound, hbefore⟩
    obtain ⟨v, hv, rfl⟩ := Option.map_eq_some_iff.mp hfound
    have hvehicle := find?_eq_some_iff_firstUnlisted.mp hv
    exact ⟨t, v, ⟨⟨before, after, heq, by simpa using hbefore⟩, hvehicle⟩, rfl⟩
  · rintro ⟨t, v, ⟨⟨before, after, heq, hbefore⟩, hvehicle⟩, rfl⟩
    have hv := find?_eq_some_iff_firstUnlisted.mpr hvehicle
    exact ⟨before, t, after, heq, Option.map_eq_some_iff.mpr ⟨v, hv, rfl⟩, by simpa using hbefore⟩

/-- What is wrong with a definition, as it is reported. -/
inductive Defect (d : Definition) : PolicyError → Prop
  | permitType {id : String} (h : Catalog.FirstRepeat (d.permitTypes.map PermitType.id) id) :
      Defect d (.duplicatePermitType id)
  | vehicleType {id : String} (ht : (d.permitTypes.map PermitType.id).Nodup)
      (h : Catalog.FirstRepeat (d.vehicleTypes.all.map CatalogEntry.id) id) :
      Defect d (.duplicateVehicleType id)
  | allowedVehicle {t : PermitType} {v : String} (ht : (d.permitTypes.map PermitType.id).Nodup)
      (hv : (d.vehicleTypes.all.map CatalogEntry.id).Nodup)
      (h : FirstUnknown (d.vehicleTypes.all.map CatalogEntry.id) d.permitTypes t v) :
      Defect d (.unknownAllowedVehicle t.id v)

theorem defect?_eq_some_iff {d : Definition} {e : PolicyError} :
    d.defect? = some e ↔ d.Defect e := by
  constructor
  · unfold defect?
    dsimp only
    split
    · rename_i id hid
      rintro ⟨⟩
      exact .permitType (Catalog.firstRepeat_eq_some_iff.mp hid)
    · rename_i ht
      replace ht := Catalog.firstRepeat_eq_none_iff.mp ht
      split
      · rename_i id hid
        rintro ⟨⟩
        exact .vehicleType ht (Catalog.firstRepeat_eq_some_iff.mp hid)
      · rename_i hv
        replace hv := Catalog.firstRepeat_eq_none_iff.mp hv
        intro h
        obtain ⟨⟨id, v⟩, hunknown, rfl⟩ := Option.map_eq_some_iff.mp h
        obtain ⟨t, w, hfirst, heq⟩ := unknownVehicle?_eq_some_iff.mp hunknown
        obtain ⟨rfl, rfl⟩ := Prod.mk.inj heq
        exact .allowedVehicle ht hv hfirst
  · intro h
    cases h with
    | permitType h =>
      rw [← Catalog.firstRepeat_eq_some_iff] at h
      simp [defect?, h]
    | vehicleType ht h =>
      rw [← Catalog.firstRepeat_eq_none_iff] at ht
      rw [← Catalog.firstRepeat_eq_some_iff] at h
      simp [defect?, ht, h]
    | @allowedVehicle t v ht hv h =>
      rw [← Catalog.firstRepeat_eq_none_iff] at ht hv
      have hunknown := unknownVehicle?_eq_some_iff.mpr ⟨t, v, h, rfl⟩
      simp [defect?, ht, hv, hunknown]

-- A trailer with the id of a power unit is reported before a vehicle that is unknown.
example : defect? ⟨"1", [], [], [⟨"TROS", "Oversize", false, false, false, false, ["LOGGER"], []⟩],
    .null, .null, {}, ⟨[⟨"TRKTRAC", "Tractors", none⟩], [⟨"TRKTRAC", "Trailers", none⟩]⟩, []⟩ =
      some (.duplicateVehicleType "TRKTRAC") := by decide

end Definition

namespace Policy
open Calendar

theorem build_eq_error {d : Definition} {today : Date} {e : PolicyError} :
    build d today = .error e ↔ d.Defect e := by
  rw [← Definition.defect?_eq_some_iff, build]
  cases d.defect? <;> simp

end Policy
end PermitPolicy
