import PermitPolicy.Facts.Document
import PermitPolicy.Proofs.Entries

/-! Laying a document over a base.  The result is canonical when both are, every place of the
base stays in it, and places that the base does not have are those of the document.  An object
fills the slots of the base and adds what has none.  Several documents may be laid over one another
in either grouping, so a second time changes nothing. -/

namespace PermitPolicy.Json.Value
set_option autoImplicit false

theorem canonicalMembers_iff (ms : List (String × Value)) :
    CanonicalMembers ms ↔ ∀ m ∈ ms, Canonical m.2 := by
  induction ms with
  | nil => simp [CanonicalMembers]
  | cons m ms ih => simp [CanonicalMembers, ih]

theorem canonical_object_iff (ms : List (String × Value)) :
    Canonical (.object ms) ↔ Entries.Sorted ms ∧ ∀ m ∈ ms, Canonical m.2 := by
  simp only [Canonical, canonicalMembers_iff]

theorem Canonical.sorted {ms : List (String × Value)} (h : Canonical (.object ms)) :
    Entries.Sorted ms := ((canonical_object_iff ms).mp h).1

theorem Canonical.get? {key : String} {v w : Value} (h : v.Canonical)
    (hw : v.get? key = some w) : w.Canonical := by
  cases v with
  | object ms => exact ((canonical_object_iff ms).mp h).2 _ (Entries.mem_of_get? hw)
  | _ => cases hw

theorem canonical_insert {slots : Entries Value} {key : String} {v : Value}
    (h : Canonical (.object slots)) (hv : v.Canonical) :
    Canonical (.object (Entries.insert key v slots)) := by
  obtain ⟨hs, hm⟩ := (canonical_object_iff slots).mp h
  apply (canonical_object_iff _).mpr
  refine ⟨Entries.insert_sorted key v hs, ?_⟩
  intro m hmem
  rcases Entries.mem_insert hmem with rfl | hmem
  · exact hv
  · exact hm m hmem

/-- What a member of the document becomes at its slot, if there is one. -/
def laidOver (slot : Option Value) (v : Value) : Value :=
  match slot with
  | some base => base.overlay v
  | none => v

theorem overlayMembers_cons (slots : Entries Value) (key : String) (v : Value)
    (ms : List (String × Value)) :
    overlayMembers slots ((key, v) :: ms) =
      overlayMembers (Entries.insert key (laidOver (Entries.get? key slots) v) slots) ms := by
  rw [overlayMembers]
  rfl

theorem get?_overlayMembers (key : String) {ms : List (String × Value)} (hs : Entries.Sorted ms)
    (slots : Entries Value) :
    Entries.get? key (overlayMembers slots ms) =
      match Entries.get? key ms with
      | some v => some (laidOver (Entries.get? key slots) v)
      | none => Entries.get? key slots := by
  induction ms generalizing slots with
  | nil => rfl
  | cons m ms ih =>
    obtain ⟨k, v⟩ := m
    obtain ⟨hlt, hs⟩ := Entries.sorted_cons.mp hs
    rw [overlayMembers_cons, ih hs, Entries.get?_insert, Entries.get?_cons]
    by_cases hk : k = key
    · subst hk
      rw [Entries.get?_eq_none_of_not_lt hlt (String.lt_irrefl k)]
      simp
    · simp only [if_neg hk]

theorem overlay_object (slots : Entries Value) (d : Value) :
    (Value.object slots).overlay d =
      match d with
      | .object ms => .object (overlayMembers slots ms)
      | _ => .object slots := by
  cases d <;> simp [overlay, overlayLeaf]

theorem overlay_of_not_object {base : Value} (h : base.isObject = false) (d : Value) :
    base.overlay d = if d.isNull then base else d := by
  cases base with
  | object slots => cases h
  | _ => cases d <;> simp [overlay, overlayLeaf, isNull]

theorem get?_overlay_object {d : Value} (hd : d.Canonical) (slots : Entries Value)
    (key : String) :
    ((Value.object slots).overlay d).get? key =
      match d.get? key with
      | some v => some (laidOver (Entries.get? key slots) v)
      | none => Entries.get? key slots := by
  rw [overlay_object]
  cases d with
  | object ms => exact get?_overlayMembers key hd.sorted slots
  | _ => rfl

theorem canonical_overlayLeaf {base leaf : Value} (hb : base.Canonical) (hl : leaf.Canonical) :
    (overlayLeaf base leaf).Canonical := by
  cases base with
  | object slots => exact hb
  | _ => exact hl

mutual
theorem canonical_overlay : {base : Value} → (d : Value) → base.Canonical → d.Canonical →
    (base.overlay d).Canonical
  | base, .object ms, hb, hd => by
    cases base with
    | object slots =>
      rw [overlay_object]
      exact canonical_overlayMembers ms hb ((canonical_object_iff ms).mp hd).2
    | _ => exact hd
  | _, .null, hb, _ => hb
  | _, .bool _, hb, hd => canonical_overlayLeaf hb hd
  | _, .number _, hb, hd => canonical_overlayLeaf hb hd
  | _, .string _, hb, hd => canonical_overlayLeaf hb hd
  | _, .array _, hb, hd => canonical_overlayLeaf hb hd

theorem canonical_overlayMembers : {slots : Entries Value} → (ms : List (String × Value)) →
    Canonical (.object slots) → (∀ m ∈ ms, Canonical m.2) →
      Canonical (.object (overlayMembers slots ms))
  | _, [], hs, _ => hs
  | slots, (key, v) :: ms, hs, hm => by
    rw [overlayMembers_cons]
    have hv : v.Canonical := hm _ List.mem_cons_self
    apply canonical_overlayMembers ms _ fun m hmem => hm m (List.mem_cons_of_mem _ hmem)
    apply canonical_insert hs
    cases hk : Entries.get? key slots with
    | none => exact hv
    | some base => exact canonical_overlay v (hs.get? hk) hv
end

theorem isSome_descend?_overlay {base d : Value} (hd : d.Canonical) {keys : List String}
    (h : (base.descend? keys).isSome) : ((base.overlay d).descend? keys).isSome := by
  induction keys generalizing base d with
  | nil => rfl
  | cons key keys ih =>
    cases base with
    | object slots =>
      simp only [descend?, get?_overlay_object hd, get?_object] at h ⊢
      cases hs : Entries.get? key slots with
      | none => simp [hs] at h
      | some slot =>
        rw [hs] at h
        cases hv : d.get? key with
        | none => exact h
        | some v => exact ih (hd.get? hv) h
    | _ => cases h

theorem descend?_overlay_of_none {base d : Value} (hd : d.Canonical) {keys : List String}
    (h : base.descend? keys = none) : (base.overlay d).descend? keys = d.descend? keys := by
  induction keys generalizing base d with
  | nil => cases h
  | cons key keys ih =>
    cases hb : base.isObject with
    | false =>
      rw [overlay_of_not_object hb]
      cases d with
      | null => exact h
      | _ => rfl
    | true =>
      cases base with
      | object slots =>
        simp only [descend?, get?_overlay_object hd, get?_object] at h ⊢
        cases hs : Entries.get? key slots with
        | none => cases d.get? key <;> rfl
        | some slot =>
          rw [hs] at h
          cases hv : d.get? key with
          | none => exact h
          | some v => exact ih (hd.get? hv) h
      | _ => cases hb

/-- What a slot becomes under a document that may have a member for it. -/
def fill (slot : Value) (member : Option Value) : Value := (member.map slot.overlay).getD slot

@[simp] theorem fill_null (member : Option Value) : fill .null member = member.getD .null := by
  cases member with
  | none => rfl
  | some v =>
    change Value.null.overlay v = v
    rw [overlay_of_not_object rfl]
    cases v <;> rfl

theorem sorted_overlayMembers {slots : Entries Value} (ms : List (String × Value))
    (hs : slots.Sorted) : (overlayMembers slots ms).Sorted := by
  induction ms generalizing slots with
  | nil => exact hs
  | cons m ms ih =>
    rw [overlayMembers_cons]
    exact ih (Entries.insert_sorted _ _ hs)

theorem sorted_map {slots : Entries Value} (hs : slots.Sorted) (f : String → Value → Value) :
    Entries.Sorted (slots.map fun e => (e.1, f e.1 e.2)) :=
  List.pairwise_map.mpr hs

/-- Laying an object over slots fills the slots and adds what has none. -/
theorem overlay_object_object {slots ms : Entries Value} (hs : slots.Sorted) (hm : ms.Sorted)
    {names : List String} (hn : ∀ key, key ∈ names ↔ (Entries.get? key slots).isSome) :
    (Value.object slots).overlay (.object ms) =
      .object (Entries.insertAll (slots.map fun e => (e.1, fill e.2 (Entries.get? e.1 ms)))
        (ms.filter fun m => !names.contains m.1)) := by
  have hfill : Entries.Sorted (slots.map fun e => (e.1, fill e.2 (Entries.get? e.1 ms))) :=
    sorted_map hs fun key slot => fill slot (Entries.get? key ms)
  have hother : Entries.Sorted (ms.filter fun m => !names.contains m.1) := hm.filter _
  rw [overlay_object]
  apply congrArg Value.object
  apply Entries.ext_get? (sorted_overlayMembers ms hs) (Entries.insertAll_sorted _ hfill)
  intro key
  rw [get?_overlayMembers key hm, Entries.get?_insertAll, Entries.get?_reverse hother,
    Entries.get?_filter key (fun k => !names.contains k),
    Entries.get?_map key fun k slot => fill slot (Entries.get? k ms)]
  have hkey := hn key
  cases hslot : Entries.get? key slots with
  | none =>
    have hno : names.contains key = false := by simpa [hslot] using hkey
    simp only [hno, Bool.not_false, if_true, Option.map_none, Option.or_none]
    cases Entries.get? key ms <;> rfl
  | some slot =>
    have hyes : names.contains key = true := by simpa [hslot] using hkey
    simp only [hyes, Bool.not_true, Bool.false_eq_true, if_false, Option.none_or]
    cases Entries.get? key ms <;> rfl

theorem overlay_of_slots {slots ms : Entries Value} (hs : slots.Sorted) (hm : ms.Sorted)
    (hk : ∀ m ∈ ms, (Entries.get? m.1 slots).isSome) :
    (Value.object slots).overlay (.object ms) =
      .object (slots.map fun e => (e.1, fill e.2 (Entries.get? e.1 ms))) := by
  have hn : ∀ key, key ∈ slots.map (·.1) ↔ (Entries.get? key slots).isSome :=
    fun _ => Entries.isSome_get?_iff.symm
  have hnone : (ms.filter fun m => !(slots.map (·.1)).contains m.1) = [] := by
    apply List.filter_eq_nil_iff.mpr
    intro m hmem
    simpa using (hn m.1).mpr (hk m hmem)
  rw [overlay_object_object hs hm hn, hnone]
  rfl

mutual
/-- What holds of a document whenever it holds of its members holds of every document. -/
theorem member_induction {P : Value → Prop}
    (step : ∀ v : Value, (∀ key w, v.get? key = some w → P w) → P v) : (v : Value) → P v
  | .object ms => step _ fun _ _ hw =>
    member_induction_members step ms _ (Entries.mem_of_get? hw)
  | .null => step _ nofun
  | .bool _ => step _ nofun
  | .number _ => step _ nofun
  | .string _ => step _ nofun
  | .array _ => step _ nofun

theorem member_induction_members {P : Value → Prop}
    (step : ∀ v : Value, (∀ key w, v.get? key = some w → P w) → P v) :
    (ms : List (String × Value)) → ∀ m ∈ ms, P m.2
  | [] => nofun
  | (key, v) :: ms => by
    intro m hm
    rcases List.mem_cons.mp hm with rfl | hm
    · exact member_induction step v
    · exact member_induction_members step ms m hm
end

theorem overlay_self (v : Value) (h : v.Canonical) : v.overlay v = v := by
  induction v using member_induction with
  | step v ih =>
    cases v with
    | object ms =>
      rw [overlay_object]
      apply congrArg Value.object
      apply Entries.ext_get? (sorted_overlayMembers ms h.sorted) h.sorted
      intro key
      rw [get?_overlayMembers key h.sorted]
      cases hv : Entries.get? key ms with
      | none => rfl
      | some v => exact congrArg some (ih key v hv (h.get? hv))
    | _ => rfl

/-- Only where all three have a member do two overlays meet at one place. -/
theorem overlayMembers_assoc {slots ds ms : Entries Value} (hs : slots.Sorted) (hd : ds.Sorted)
    (hm : ms.Sorted)
    (h : ∀ key slot w v, Entries.get? key slots = some slot → Entries.get? key ds = some w →
      Entries.get? key ms = some v → (slot.overlay w).overlay v = slot.overlay (w.overlay v)) :
    overlayMembers (overlayMembers slots ds) ms = overlayMembers slots (overlayMembers ds ms) := by
  have hlaid := sorted_overlayMembers ds hs
  have hjoined := sorted_overlayMembers ms hd
  apply Entries.ext_get? (sorted_overlayMembers ms hlaid) (sorted_overlayMembers _ hs)
  intro key
  rw [get?_overlayMembers key hm, get?_overlayMembers key hd, get?_overlayMembers key hjoined,
    get?_overlayMembers key hm]
  cases hv : Entries.get? key ms with
  | none => cases Entries.get? key ds <;> rfl
  | some v =>
    cases hw : Entries.get? key ds with
    | none => rfl
    | some w =>
      cases hslot : Entries.get? key slots with
      | none => rfl
      | some slot => exact congrArg some (h key slot w v hslot hw hv)

/-- Laying documents over one another may be grouped either way. -/
theorem overlay_assoc {b d e : Value} (hb : b.Canonical) (hd : d.Canonical) (he : e.Canonical) :
    (b.overlay d).overlay e = b.overlay (d.overlay e) := by
  induction e using member_induction generalizing b d with
  | step e ih =>
    cases e with
    | object ms =>
      cases d with
      | object ds =>
        cases b with
        | object slots =>
          simp only [overlay_object]
          apply congrArg Value.object
          apply overlayMembers_assoc hb.sorted hd.sorted he.sorted
          intro key slot w v hslot hw hv
          exact ih key v hv (hb.get? hslot) (hd.get? hw) (he.get? hv)
        | _ => rfl
      | null => rfl
      | _ => cases b <;> rfl
    | null => rfl
    | _ => cases b <;> cases d <;> rfl

theorem overlay_overlay (d : Value) (hd : d.Canonical) {base : Value} (hb : base.Canonical) :
    base.overlay (base.overlay d) = base.overlay d := by
  rw [← overlay_assoc hb hb hd, overlay_self base hb]

end PermitPolicy.Json.Value
