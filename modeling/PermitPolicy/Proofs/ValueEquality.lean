import PermitPolicy.Operator.Standard

/-! Equality of values.  Documents of the same structure agree in what else they have the structure
of, and values that are equal as operators see them agree in what else they are equal to; both
relations are therefore equivalences. -/

namespace PermitPolicy
open Json
set_option autoImplicit false

namespace Json

theorem Number.same_refl (n : Number) : n.same n = true := by
  cases n <;> exact beq_self_eq_true _

theorem Number.units_eq_of_same {m n : Number} (h : m.same n = true) : m.units = n.units := by
  cases m <;> cases n <;> simp_all [same, units]

theorem Number.same_congr {m n : Number} (h : m.same n = true) (k : Number) :
    m.same k = n.same k := by
  cases m <;> cases n <;> cases k <;> simp_all [same]

namespace Value

mutual
theorem same_refl : (v : Value) → v.same v = true
  | .null => rfl
  | .bool b => beq_self_eq_true b
  | .number n => n.same_refl
  | .string s => beq_self_eq_true s
  | .array xs => sameItems_refl xs
  | .object ms => sameMembers_refl ms

theorem sameItems_refl : (xs : List Value) → sameItems xs xs = true
  | [] => rfl
  | x :: xs => by rw [sameItems, same_refl x, sameItems_refl xs, Bool.and_self]

theorem sameMembers_refl : (ms : List (String × Value)) → sameMembers ms ms = true
  | [] => rfl
  | (k, v) :: ms => by
    rw [sameMembers, beq_self_eq_true, same_refl v, sameMembers_refl ms, Bool.and_self,
      Bool.and_self]
end

mutual
/-- Documents of the same structure agree in what else they have the structure of. -/
theorem same_congr : (a b : Value) → a.same b = true → ∀ c, a.same c = b.same c
  | .null, b, h, c => by
    cases b with
    | null => rfl
    | _ => cases h
  | .bool _, b, h, c => by
    cases b with
    | bool _ => rw [same, beq_iff_eq] at h; rw [h]
    | _ => cases h
  | .number _, b, h, c => by
    cases b with
    | number _ =>
      cases c with
      | number k => exact Number.same_congr h k
      | _ => rfl
    | _ => cases h
  | .string _, b, h, c => by
    cases b with
    | string _ => rw [same, beq_iff_eq] at h; rw [h]
    | _ => cases h
  | .array xs, b, h, c => by
    cases b with
    | array ys =>
      cases c with
      | array zs => exact sameItems_congr xs ys h zs
      | _ => rfl
    | _ => cases h
  | .object xs, b, h, c => by
    cases b with
    | object ys =>
      cases c with
      | object zs => exact sameMembers_congr xs ys h zs
      | _ => rfl
    | _ => cases h

theorem sameItems_congr : (xs ys : List Value) → sameItems xs ys = true →
    ∀ zs, sameItems xs zs = sameItems ys zs
  | [], [], _, _ => rfl
  | x :: xs, y :: ys, h, [] => rfl
  | x :: xs, y :: ys, h, z :: zs => by
    rw [sameItems, Bool.and_eq_true] at h
    rw [sameItems, sameItems, same_congr x y h.1 z, sameItems_congr xs ys h.2 zs]

theorem sameMembers_congr : (xs ys : List (String × Value)) → sameMembers xs ys = true →
    ∀ zs, sameMembers xs zs = sameMembers ys zs
  | [], [], _, _ => rfl
  | (k, x) :: xs, (l, y) :: ys, h, [] => rfl
  | (k, x) :: xs, (l, y) :: ys, h, (m, z) :: zs => by
    rw [sameMembers, Bool.and_eq_true, Bool.and_eq_true, beq_iff_eq] at h
    obtain ⟨⟨rfl, hv⟩, hrest⟩ := h
    rw [sameMembers, sameMembers, same_congr x y hv z, sameMembers_congr xs ys hrest zs]
end

end Value
end Json

theorem equalValues_numbers (m n : Number) :
    equalValues (.number m) (.number n) = (m.units == n.units) := rfl

theorem Json.Value.units?_eq_none {v : Value} (h : v.isNumber = false) : v.units? = none := by
  cases v with
  | number n => cases h
  | _ => rfl

theorem equalValues_of_not_numbers {a b : Value}
    (h : a.isNumber = false ∨ b.isNumber = false) : equalValues a b = a.same b := by
  unfold equalValues
  rcases h with ha | hb
  · rw [Value.units?_eq_none ha]
  · rw [Value.units?_eq_none hb]
    cases a.units? <;> rfl

theorem equalValues_refl (v : Value) : equalValues v v = true := by
  cases v with
  | number n => rw [equalValues_numbers, beq_self_eq_true]
  | _ => exact Value.same_refl _

theorem isNumber_eq_of_equalValues {a b : Value} (h : equalValues a b = true) :
    a.isNumber = b.isNumber := by
  cases a with
  | number m =>
    cases b with
    | number n => rfl
    | _ => cases h
  | _ =>
    cases b with
    | number n => cases h
    | _ => rfl

theorem equalValues_of_same {a b : Value} (h : a.same b = true) : equalValues a b = true := by
  cases a with
  | number m =>
    cases b with
    | number n => exact beq_iff_eq.mpr (Number.units_eq_of_same h)
    | _ => cases h
  | _ =>
    rw [equalValues_of_not_numbers (.inl rfl)]
    exact h

/-- Equal values agree in what else they are equal to. -/
theorem equalValues_congr {a b : Value} (h : equalValues a b = true) (c : Value) :
    equalValues a c = equalValues b c := by
  have hkind := isNumber_eq_of_equalValues h
  cases ha : a.isNumber with
  | false =>
    have hsame : a.same b = true := by rwa [equalValues_of_not_numbers (.inl ha)] at h
    rw [equalValues_of_not_numbers (.inl ha), equalValues_of_not_numbers (.inl (hkind ▸ ha)),
      Value.same_congr a b hsame c]
  | true =>
    obtain ⟨m, rfl⟩ : ∃ m, a = .number m := by cases a <;> simp_all [Value.isNumber]
    obtain ⟨n, rfl⟩ : ∃ n, b = .number n := by cases b <;> simp_all [Value.isNumber]
    have hunits : m.units = n.units := by rwa [equalValues_numbers, beq_iff_eq] at h
    cases c with
    | number k => rw [equalValues_numbers, equalValues_numbers, hunits]
    | _ => rfl

theorem equalValues_comm (a b : Value) : equalValues a b = equalValues b a := by
  have hsymm : ∀ {a b}, equalValues a b = true → equalValues b a = true := by
    intro a b h
    rw [← equalValues_congr h a]
    exact equalValues_refl a
  exact Bool.eq_iff_iff.mpr ⟨hsymm, hsymm⟩

theorem equalValues_trans {a b c : Value} (hab : equalValues a b = true)
    (hbc : equalValues b c = true) : equalValues a c = true := by
  rw [equalValues_congr hab]
  exact hbc

end PermitPolicy
