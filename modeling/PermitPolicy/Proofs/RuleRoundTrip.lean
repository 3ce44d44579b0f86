import PermitPolicy.Proofs.OperandForms
import PermitPolicy.Proofs.DecoderRoundTrip

/-! Rules read back.  What a condition is written as is read by none of the alternatives before its
own, so a tree of conditions is read back if its comparisons are.  A comparison is, because an
operand that was kept as a literal is no reference when it is read again either. -/

namespace PermitPolicy
open Json Fields
set_option autoImplicit false

theorem FactReference.decode?_encode (r : FactReference) : decode? r.encode = some r := by
  apply decode?_eq_some_iff.mpr
  obtain ⟨fact, _ | path⟩ := r
  · exact Or.inl ⟨_, rfl, by simp [member?], rfl, Or.inl rfl⟩
  · exact Or.inl ⟨_, rfl, by simp [member?], rfl, rfl⟩

theorem Operand.readsBack : ReadsBack (fun v => .ok (Operand.decode v)) Operand.encode := by
  intro v o h
  obtain rfl := Except.ok.inj h
  apply congrArg
  cases ho : Operand.decode v with
  | fact r =>
    unfold encode decode
    simp only [r.decode?_encode]
  | literal w =>
    obtain rfl := (decode_eq_literal_iff.mp ho).1
    exact ho

namespace Comparison

theorem readsBack : ReadsBack (Fields.decode record fields) encode := by
  apply Fields.readsBack
  intro s c _ h
  rw [fields, eq_ok_iff_exists] at h ⊢
  simp only [exists_seq, exists_map] at h ⊢
  obtain ⟨fact, hfact, operator, hoperator, operand, hoperand, path, hpath, rfl⟩ := h
  exact ⟨fact, required_back .string hfact rfl,
    operator, required_back .string hoperator rfl,
    operand, withDefault_back Operand.readsBack rfl hoperand (by cases path <;> rfl),
    path, text_back hpath (by cases path <;> rfl), rfl⟩

theorem decode?_encode {v : Value} {c : Comparison} (h : decode? v = some c) :
    decode? c.encode = some c :=
  toOption_eq_some.mpr (readsBack v c (toOption_eq_some.mp h))

end Comparison

namespace Condition

theorem decodeList?_cons_ne {key k : String} (h : k ≠ key) (v : Value)
    (ms : List (String × Value)) : decodeList? key ((k, v) :: ms) = decodeList? key ms := by
  cases v <;> simp [decodeList?, h]

theorem decodeList?_of_absent {key : String} {ms : List (String × Value)}
    (h : ∀ m ∈ ms, m.1 ≠ key) : decodeList? key ms = none := by
  induction ms with
  | nil => rfl
  | cons m ms ih =>
    rw [decodeList?_cons_ne (h m List.mem_cons_self)]
    exact ih fun m hm => h m (List.mem_cons_of_mem _ hm)

theorem decodeMember?_of_absent {key : String} {ms : List (String × Value)}
    (h : ∀ m ∈ ms, m.1 ≠ key) : decodeMember? key ms = none := by
  induction ms with
  | nil => rfl
  | cons m ms ih =>
    rw [decodeMember?, if_neg (h m List.mem_cons_self)]
    exact ih fun m hm => h m (List.mem_cons_of_mem _ hm)

/-- The members that a comparison is written with. -/
theorem key_of_mem_encode {leaf : Comparison} {ms : List (String × Value)}
    (h : leaf.encode = .object ms) : ∀ m ∈ ms, m.1 ∈ Comparison.record.fields := by
  obtain ⟨fact, operator, operand, _ | path⟩ := leaf
  all_goals
    cases h
    simp [Comparison.record, member?]

mutual
/-- A condition is read back if its comparisons are. -/
theorem decode?_encode_of_leaves : (c : Condition) →
    (∀ leaf ∈ c.leaves, Comparison.decode? leaf.encode = some leaf) → decode? c.encode = some c
  | .all children, h => by
    rw [encode, decode?, decodeList?, if_pos rfl, decodeItems?_encodeAll_of_leaves children h]
    rfl
  | .any children, h => by
    rw [encode, decode?, decodeList?_cons_ne (by decide), decodeList?, decodeList?, if_pos rfl,
      decodeItems?_encodeAll_of_leaves children h]
    rfl
  | .not child, h => by
    rw [encode, decode?, decodeList?_cons_ne (by decide), decodeList?,
      decodeList?_cons_ne (by decide), decodeList?, decodeMember?, if_pos rfl,
      decode?_encode_of_leaves child h]
    rfl
  | .comparison leaf, h => by
    -- No member of a comparison has the name of a combinator, so these find nothing to read.
    have hleaf := h leaf List.mem_cons_self
    cases hms : leaf.encode with
    | object ms =>
      have hkey := key_of_mem_encode hms
      have habsent : ∀ key, key ∉ Comparison.record.fields → ∀ m ∈ ms, m.1 ≠ key :=
        fun key hk m hm he => hk (he ▸ hkey m hm)
      rw [encode, hms, decode?, decodeList?_of_absent (habsent "all" (by decide)),
        decodeList?_of_absent (habsent "any" (by decide)),
        decodeMember?_of_absent (habsent "not" (by decide)), ← hms, hleaf]
      rfl
    | _ => cases hms

theorem decodeItems?_encodeAll_of_leaves : (cs : List Condition) →
    (∀ leaf ∈ leavesOf cs, Comparison.decode? leaf.encode = some leaf) →
      decodeItems? (encodeAll cs) = some cs
  | [], _ => rfl
  | c :: cs, h => by
    rw [encodeAll, decodeItems?,
      decode?_encode_of_leaves c fun leaf hl => h leaf (List.mem_append_left _ hl),
      decodeItems?_encodeAll_of_leaves cs fun leaf hl => h leaf (List.mem_append_right _ hl)]
    rfl
end

/-- A condition read from an object is the first of its kinds that the members give. -/
theorem decode?_object_eq_some {ms : List (String × Value)} {c : Condition}
    (h : decode? (.object ms) = some c) :
    (∃ cs, decodeList? "all" ms = some cs ∧ c = .all cs) ∨
      (∃ cs, decodeList? "any" ms = some cs ∧ c = .any cs) ∨
      (∃ child, decodeMember? "not" ms = some child ∧ c = .not child) ∨
      ∃ leaf, Comparison.decode? (.object ms) = some leaf ∧ c = .comparison leaf := by
  rw [decode?] at h
  cases hall : decodeList? "all" ms with
  | some cs =>
    rw [hall] at h
    exact Or.inl ⟨cs, rfl, (Option.some.inj h).symm⟩
  | none =>
  cases hany : decodeList? "any" ms with
  | some cs =>
    rw [hall, hany] at h
    exact Or.inr (Or.inl ⟨cs, rfl, (Option.some.inj h).symm⟩)
  | none =>
  cases hnot : decodeMember? "not" ms with
  | some child =>
    rw [hall, hany, hnot] at h
    exact Or.inr (Or.inr (Or.inl ⟨child, rfl, (Option.some.inj h).symm⟩))
  | none =>
    rw [hall, hany, hnot] at h
    obtain ⟨leaf, hleaf, rfl⟩ := Option.map_eq_some_iff.mp h
    exact Or.inr (Or.inr (Or.inr ⟨leaf, hleaf, rfl⟩))

mutual
/-- Every comparison of a condition that was read was read from some document. -/
theorem leaf_of_decode? : (v : Value) → ∀ {c : Condition}, decode? v = some c →
    ∀ leaf ∈ c.leaves, ∃ w, Comparison.decode? w = some leaf
  | .object ms, c, h => by
    intro leaf hleaf
    rcases decode?_object_eq_some h with
      ⟨cs, hcs, rfl⟩ | ⟨cs, hcs, rfl⟩ | ⟨child, hchild, rfl⟩ | ⟨l, hl, rfl⟩
    · exact leaf_of_decodeList? "all" ms hcs leaf hleaf
    · exact leaf_of_decodeList? "any" ms hcs leaf hleaf
    · exact leaf_of_decodeMember? "not" ms hchild leaf hleaf
    · exact ⟨_, List.mem_singleton.mp hleaf ▸ hl⟩
  | .array items, c, h => by
    rw [decode?] at h
    obtain ⟨l, hl, rfl⟩ := Option.map_eq_some_iff.mp h
    intro leaf hleaf
    exact ⟨_, List.mem_singleton.mp hleaf ▸ hl⟩
  | .null, _, h | .bool _, _, h | .number _, _, h | .string _, _, h => by simp [decode?] at h

theorem leaf_of_decodeList? (key : String) : (ms : List (String × Value)) →
    ∀ {cs : List Condition}, decodeList? key ms = some cs →
      ∀ leaf ∈ leavesOf cs, ∃ w, Comparison.decode? w = some leaf
  | [], _, h => by simp [decodeList?] at h
  | (k, .array items) :: ms, cs, h => by
    rw [decodeList?] at h
    split at h
    · exact leaf_of_decodeItems? items h
    · exact leaf_of_decodeList? key ms h
  | (k, .null) :: ms, cs, h | (k, .bool _) :: ms, cs, h | (k, .number _) :: ms, cs, h
  | (k, .string _) :: ms, cs, h | (k, .object _) :: ms, cs, h => by
    simp only [decodeList?] at h
    split at h
    · cases h
    · exact leaf_of_decodeList? key ms h

theorem leaf_of_decodeMember? (key : String) : (ms : List (String × Value)) →
    ∀ {c : Condition}, decodeMember? key ms = some c →
      ∀ leaf ∈ c.leaves, ∃ w, Comparison.decode? w = some leaf
  | [], _, h => by simp [decodeMember?] at h
  | (k, v) :: ms, c, h => by
    rw [decodeMember?] at h
    split at h
    · exact leaf_of_decode? v h
    · exact leaf_of_decodeMember? key ms h

theorem leaf_of_decodeItems? : (items : List Value) → ∀ {cs : List Condition},
    decodeItems? items = some cs → ∀ leaf ∈ leavesOf cs, ∃ w, Comparison.decode? w = some leaf
  | [], cs, h => by
    rw [decodeItems?] at h
    cases h
    nofun
  | v :: items, cs, h => by
    rw [decodeItems?] at h
    cases hv : decode? v with
    | none => simp [hv] at h
    | some c =>
      rw [hv] at h
      obtain ⟨rest, hrest, rfl⟩ := Option.map_eq_some_iff.mp h
      intro leaf hleaf
      rcases List.mem_append.mp hleaf with hleaf | hleaf
      · exact leaf_of_decode? v hv leaf hleaf
      · exact leaf_of_decodeItems? items hrest leaf hleaf
end

theorem decode_eq_ok {v : Value} {c : Condition} : decode v = .ok c ↔ decode? v = some c := by
  unfold decode
  cases decode? v <;> simp

theorem readsBack : ReadsBack decode encode := by
  intro v c h
  rw [decode_eq_ok] at h ⊢
  apply decode?_encode_of_leaves
  intro leaf hleaf
  obtain ⟨w, hw⟩ := leaf_of_decode? v h leaf hleaf
  exact Comparison.decode?_encode hw

end Condition

theorem Event.readsBack : ReadsBack decode encode := by
  apply Fields.readsBack
  intro s e _ h
  rw [fields, eq_ok_iff_exists] at h ⊢
  simp only [exists_seq, exists_map] at h ⊢
  obtain ⟨kind, hkind, params, hparams, rfl⟩ := h
  refine ⟨kind, withDefault_back .string rfl hkind (by cases params <;> rfl), params, ?_, rfl⟩
  refine optional_back .any ?_ hparams (by cases params <;> rfl)
  rintro v _ ⟨⟩ hnull
  exact hnull

theorem Rule.readsBack : ReadsBack decode encode := by
  apply Fields.readsBack
  intro s r _ h
  rw [fields, eq_ok_iff_exists] at h ⊢
  simp only [exists_seq, exists_map] at h ⊢
  obtain ⟨name, hname, priority, hpriority, conditions, hconditions, event, hevent, rfl⟩ := h
  exact ⟨name, text_back hname (by cases name <;> cases priority <;> rfl),
    priority, signed_back hpriority (by cases name <;> cases priority <;> rfl),
    conditions, required_back Condition.readsBack hconditions rfl,
    event, required_back Event.readsBack hevent rfl, rfl⟩

end PermitPolicy
