import PermitPolicy.Json.Decode

/-! When the decoding of a record succeeds, and with what.  Each way of reading a field
asks one thing of the member under its name, and a record is read field by field. -/

namespace PermitPolicy.Json
set_option autoImplicit false

variable {α β : Type}

theorem toOption_eq_some {x : Except DecodeError α} {a : α} :
    x.toOption = some a ↔ x = .ok a := by
  cases x <;> simp [Except.toOption]

namespace Decoder

theorem string_eq_ok {v : Value} {s : String} : Decoder.string v = .ok s ↔ v = .string s := by
  cases v <;> simp [Decoder.string]

theorem nullable_eq_ok {item : Decoder α} {v : Value} {o : Option α} :
    Decoder.nullable item v = .ok o ↔
      (v = .null ∧ o = none) ∨ (v ≠ .null ∧ ∃ a, item v = .ok a ∧ o = some a) := by
  have hmap : ∀ x : Except DecodeError α,
      Except.map some x = .ok o ↔ ∃ a, x = .ok a ∧ o = some a := by
    intro x
    cases x <;> simp [Except.map, eq_comm]
  cases v with
  | null => simp [Decoder.nullable, eq_comm]
  | _ => simpa [Decoder.nullable] using hmap _

end Decoder

namespace Fields
variable {s : Source}

theorem seq_eq_ok {f : Fields (α → β)} {x : Fields α} {b : β} :
    (f <*> x) s = .ok b ↔ ∃ g a, f s = .ok g ∧ x s = .ok a ∧ g a = b := by
  change Fields.seq f x s = .ok b ↔ _
  unfold Fields.seq
  cases f s <;> cases x s <;> simp

theorem map_eq_ok {g : α → β} {x : Fields α} {b : β} :
    (g <$> x) s = .ok b ↔ ∃ a, x s = .ok a ∧ g a = b := by
  change Fields.seq (Fields.pure g) x s = .ok b ↔ _
  unfold Fields.seq Fields.pure
  cases x s <;> simp

theorem find_map_snd (name : String) (i : Nat) (ms : List (String × Value)) :
    (find name i ms).map Prod.snd = Entries.get? name ms := by
  induction ms generalizing i with
  | nil => rfl
  | cons m ms ih =>
    obtain ⟨k, v⟩ := m
    simp only [find, Entries.get?_cons]
    split
    · rfl
    · exact ih (i + 1)

theorem field_eq_ok {name : String} {decode : Decoder α} {missing : Source → Except Ranked α}
    {a : α} : field name decode missing s = .ok a ↔
      match Entries.get? name s.present with
      | some v => decode v = .ok a
      | none => missing s = .ok a := by
  rw [← find_map_snd name 0 s.present]
  unfold field
  cases find name 0 s.present with
  | none => rfl
  | some m =>
    obtain ⟨i, v⟩ := m
    cases h : decode v <;> simp [h]

theorem required_eq_ok {name : String} {decode : Decoder α} {a : α} :
    required name decode s = .ok a ↔
      ∃ v, Entries.get? name s.present = some v ∧ decode v = .ok a := by
  unfold required
  rw [field_eq_ok]
  cases Entries.get? name s.present <;> simp

theorem withDefault_eq_ok {name : String} {default a : α} {decode : Decoder α} :
    withDefault name default decode s = .ok a ↔
      match Entries.get? name s.present with
      | some v => decode v = .ok a
      | none => default = a := by
  unfold withDefault
  rw [field_eq_ok]
  cases Entries.get? name s.present <;> simp

theorem optional_string_eq_ok {name : String} {o : Option String} :
    optional name .string s = .ok o ↔
      match o with
      | some text => Entries.get? name s.present = some (.string text)
      | none =>
        Entries.get? name s.present = none ∨ Entries.get? name s.present = some .null := by
  unfold optional
  rw [withDefault_eq_ok]
  cases Entries.get? name s.present with
  | none => cases o <;> simp
  | some v =>
    cases o with
    | none => simp [Decoder.nullable_eq_ok]
    | some text =>
      simp only [Decoder.nullable_eq_ok, Decoder.string_eq_ok]
      constructor
      · rintro (⟨_, h⟩ | ⟨_, t, rfl, ⟨⟩⟩)
        · cases h
        · rfl
      · rintro ⟨⟩
        exact Or.inr ⟨by simp, text, rfl, rfl⟩

theorem decode_object_eq_ok {record : Record} {fields : Fields α} {ms : List (String × Value)}
    {a : α} :
    decode record fields (.object ms) = .ok a ↔ fields ⟨record, ms, false⟩ = .ok a := by
  have hs : Source.of record (.object ms) = .ok ⟨record, ms, false⟩ := rfl
  unfold decode
  rw [hs]
  simp only [bind, Except.bind]
  cases fields ⟨record, ms, false⟩ <;> simp

/-- An array stands for a record if it has no more elements than the record has fields. -/
theorem decode_array_eq_ok {record : Record} (hr : record.positional = true)
    {fields : Fields α} {items : List Value} {a : α} :
    decode record fields (.array items) = .ok a ↔
      items.length ≤ record.fields.length ∧
        fields ⟨record, record.fields.zip items, true⟩ = .ok a := by
  have hs : Source.of record (.array items) = .ok ⟨record, record.fields.zip items, true⟩ := by
    simp [Source.of, hr]
  unfold decode
  rw [hs]
  simp only [bind, Except.bind]
  cases fields ⟨record, record.fields.zip items, true⟩ with
  | error e => simp
  | ok b =>
    by_cases h : record.fields.length < items.length
    · simp [h, Nat.not_le_of_lt h]
    · simp [h, Nat.le_of_not_lt h]

theorem decode_ne_ok {record : Record} {fields : Fields α} {v : Value} {a : α}
    (ho : v.isObject = false) (ha : v.isArray = false) : decode record fields v ≠ .ok a := by
  intro h
  cases v with
  | object ms => cases ho
  | array items => cases ha
  | _ => cases h

end Fields
end PermitPolicy.Json
