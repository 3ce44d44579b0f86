import PermitPolicy.Proofs.TypedDocuments

/-! Reading back what was written.  A decoder reads back what it has read, if the encoding of that
decodes to it again.  Lists, optional values and fields with a default keep this, and a record has
it as soon as its fields have. -/

namespace PermitPolicy.Json
set_option autoImplicit false

variable {α β : Type}

/-- Whatever was read from some document is read again from its own encoding. -/
def ReadsBack (item : Decoder α) (encode : α → Value) : Prop :=
  ∀ v a, item v = .ok a → item (encode a) = .ok a

theorem Decoder.orDefault_of_ne {item : Decoder α} {default : α} {v : Value} (h : v ≠ .null) :
    item.orDefault default v = item v := by
  cases v with
  | null => contradiction
  | _ => rfl

namespace ReadsBack
variable {item : Decoder α} {encode : α → Value}

theorem of_eq (h : ∀ v a, item v = .ok a → v = encode a) : ReadsBack item encode := by
  intro v a hv
  exact h v a hv ▸ hv

theorem string : ReadsBack Decoder.string .string := of_eq fun _ _ => Decoder.string_eq_ok.mp

theorem bool : ReadsBack Decoder.bool .bool := of_eq fun _ _ => Decoder.bool_eq_ok

theorem signed (bits : Nat) (expected : Expected) : ReadsBack (.signed bits expected) .int :=
  of_eq fun _ _ => Decoder.signed_eq_ok

theorem any : ReadsBack .any id := fun _ _ _ => rfl

theorem items (h : ReadsBack item encode) {vs : List Value} {as : List α}
    (hvs : vs.mapM item = .ok as) : (as.map encode).mapM item = .ok as := by
  induction vs generalizing as with
  | nil =>
    obtain rfl := pure_eq_ok.mp hvs
    rfl
  | cons v vs ih =>
    rw [List.mapM_cons] at hvs
    obtain ⟨a, ha, hvs⟩ := bind_eq_ok.mp hvs
    obtain ⟨rest, hrest, hvs⟩ := bind_eq_ok.mp hvs
    obtain rfl := pure_eq_ok.mp hvs
    rw [List.map_cons, List.mapM_cons, h v a ha, ih hrest]
    rfl

theorem list (h : ReadsBack item encode) :
    ReadsBack item.list fun as => .array (as.map encode) := by
  intro v as hv
  cases v with
  | array vs => exact h.items hv
  | _ => cases hv

theorem nullable (h : ReadsBack item encode)
    (hne : ∀ v a, item v = .ok a → encode a = .null → v = .null) :
    ReadsBack item.nullable (.ofOption encode) := by
  intro v o hv
  rcases Decoder.nullable_eq_ok.mp hv with ⟨rfl, rfl⟩ | ⟨hnull, a, ha, rfl⟩
  · rfl
  · exact Decoder.nullable_eq_ok.mpr
      (Or.inr ⟨fun he => hnull (hne v a ha he), a, h v a ha, rfl⟩)

theorem orDefault (h : ReadsBack item encode) (hne : ∀ a, encode a ≠ .null) {default : α}
    (hd : item (encode default) = .ok default) : ReadsBack (item.orDefault default) encode := by
  intro v a hv
  rw [Decoder.orDefault_of_ne (hne a)]
  cases v with
  | null =>
    cases hv
    exact hd
  | _ => exact h _ a hv

end ReadsBack

namespace Fields
variable {s t : Source} {name : String} {item : Decoder α} {encode : α → Value}

/-- A field with a default is read back from its member, also where the default stood in for it. -/
theorem withDefault_back (hb : ReadsBack item encode) {default a : α}
    (hd : item (encode default) = .ok default) (h : withDefault name default item s = .ok a)
    (ht : Entries.get? name t.present = some (encode a)) :
    withDefault name default item t = .ok a := by
  rw [withDefault_eq_ok] at h ⊢
  rw [ht]
  cases hv : Entries.get? name s.present with
  | none =>
    rw [hv] at h
    exact h ▸ hd
  | some v =>
    rw [hv] at h
    exact hb v a h

theorem list_back (hb : ReadsBack item encode) {as : List α}
    (h : withDefault name [] item.list s = .ok as)
    (ht : Entries.get? name t.present = some (.array (as.map encode))) :
    withDefault name [] item.list t = .ok as :=
  withDefault_back hb.list rfl h ht

theorem required_back (hb : ReadsBack item encode) {a : α} (h : required name item s = .ok a)
    (ht : Entries.get? name t.present = some (encode a)) : required name item t = .ok a := by
  rw [required_eq_ok] at h ⊢
  obtain ⟨v, -, hv⟩ := h
  exact ⟨_, ht, hb v a hv⟩

theorem optional_back (hb : ReadsBack item encode)
    (hne : ∀ v a, item v = .ok a → encode a = .null → v = .null) {o : Option α}
    (h : optional name item s = .ok o)
    (ht : (Entries.get? name t.present).getD .null = .ofOption encode o) :
    optional name item t = .ok o := by
  have hnull : item.nullable (.ofOption encode o) = .ok o := by
    rw [optional, withDefault_eq_ok] at h
    cases hv : Entries.get? name s.present with
    | none =>
      rw [hv] at h
      cases h
      rfl
    | some v =>
      rw [hv] at h
      exact hb.nullable hne v o h
  rw [optional, withDefault_eq_ok]
  cases hv : Entries.get? name t.present with
  | none =>
    rw [hv] at ht
    rw [← ht] at hnull
    exact Except.ok.inj hnull
  | some v =>
    rw [hv] at ht
    obtain rfl : v = .ofOption encode o := ht
    exact hnull

theorem text_back {o : Option String} (h : optional name .string s = .ok o)
    (ht : (Entries.get? name t.present).getD .null = .ofOption .string o) :
    optional name .string t = .ok o :=
  optional_back .string (by simp) h ht

theorem signed_back {bits : Nat} {expected : Expected} {o : Option Int}
    (h : optional name (.signed bits expected) s = .ok o)
    (ht : (Entries.get? name t.present).getD .null = .ofOption .int o) :
    optional name (.signed bits expected) t = .ok o :=
  optional_back (.signed bits expected) (fun _ _ _ h => by cases h) h ht

theorem orDefault_back (hb : ReadsBack item encode) (hne : ∀ a, encode a ≠ .null) {default a : α}
    (hd : item (encode default) = .ok default) (h : orDefault name default item s = .ok a)
    (ht : Entries.get? name t.present = some (encode a)) : orDefault name default item t = .ok a :=
  withDefault_back (hb.orDefault hne hd) ((Decoder.orDefault_of_ne (hne default)).trans hd) h ht

theorem others_get?_field {extra : Table Value} (h : others s = .ok extra) {key : String}
    (hkey : key ∈ s.record.fields) : extra.get? key = none := by
  cases h
  rw [Table.get?_ofList, ← List.filter_reverse,
    Entries.get?_filter key fun k => !s.record.fields.contains k]
  simp [hkey]

/-- The further members are read back from behind the named ones. -/
theorem others_back {named : Entries Value} (hnamed : named.Sorted)
    (hfields : ∀ e ∈ named, e.1 ∈ s.record.fields) {extra : Table Value}
    (h : others s = .ok extra) :
    others ⟨s.record, named.insertAll extra.entries, false⟩ = .ok extra := by
  apply congrArg Except.ok
  apply Table.ext_get?
  intro key
  have hsorted := Entries.insertAll_sorted extra.entries hnamed
  rw [Table.get?_ofList, Entries.get?_reverse (hsorted.filter _),
    Entries.get?_filter key fun k => !s.record.fields.contains k, Entries.get?_insertAll,
    Entries.get?_reverse extra.sorted]
  by_cases hkey : key ∈ s.record.fields
  · simp [hkey, others_get?_field h hkey]
  · have habsent : Entries.get? key named = none :=
      Entries.get?_eq_none_iff.mpr fun e he heq => hkey (heq ▸ hfields e he)
    simp [hkey, habsent, Table.get?]

theorem eq_ok_iff_exists {f : Fields α} {a : α} : f s = .ok a ↔ ∃ b, f s = .ok b ∧ b = a := by
  simp

/-- Reading fields in turn, with what has to hold of the result handed to the last one. -/
theorem exists_seq {f : Fields (α → β)} {x : Fields α} {R : β → Prop} :
    (∃ b, (f <*> x) s = .ok b ∧ R b) ↔ ∃ g, f s = .ok g ∧ ∃ a, x s = .ok a ∧ R (g a) := by
  simp only [seq_eq_ok]
  constructor
  · rintro ⟨_, ⟨g, a, hg, ha, rfl⟩, hR⟩
    exact ⟨g, hg, a, ha, hR⟩
  · rintro ⟨g, hg, a, ha, hR⟩
    exact ⟨_, ⟨g, a, hg, ha, rfl⟩, hR⟩

theorem exists_map {g : α → β} {x : Fields α} {R : β → Prop} :
    (∃ b, (g <$> x) s = .ok b ∧ R b) ↔ ∃ a, x s = .ok a ∧ R (g a) := by
  simp only [map_eq_ok]
  constructor
  · rintro ⟨_, ⟨a, ha, rfl⟩, hR⟩
    exact ⟨a, ha, hR⟩
  · rintro ⟨a, ha, hR⟩
    exact ⟨_, ⟨a, ha, rfl⟩, hR⟩

theorem exists_source {record : Record} {fields : Fields α} {v : Value} {a : α}
    (h : decode record fields v = .ok a) : ∃ s, s.record = record ∧ fields s = .ok a := by
  cases v with
  | object ms => exact ⟨_, rfl, decode_object_eq_ok.mp h⟩
  | array vs =>
    cases hr : record.positional with
    | true => exact ⟨_, rfl, ((decode_array_eq_ok hr).mp h).2⟩
    | false => simp [decode, Source.of, hr, bind, Except.bind] at h
  | _ => exact absurd h (decode_ne_ok rfl rfl)

/-- A record reads back what its fields read back from the members written. -/
theorem readsBack {record : Record} {fields : Fields α} {members : α → List (String × Value)}
    (h : ∀ s a, s.record = record → fields s = .ok a →
      fields ⟨record, members a, false⟩ = .ok a) :
    ReadsBack (decode record fields) fun a => .object (members a) := by
  intro v a hv
  obtain ⟨s, hrecord, hs⟩ := exists_source hv
  exact decode_object_eq_ok.mpr (h s a hrecord hs)

end Fields
end PermitPolicy.Json
