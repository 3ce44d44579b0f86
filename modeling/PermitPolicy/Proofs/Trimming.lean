import PermitPolicy.Basic

/-! Trimming.  Blanks at the start and at the end are trimmed independently, and a text that
begins or ends with a visible character keeps that end. -/

namespace PermitPolicy
set_option autoImplicit false

namespace Text

theorem toNat_of_isDigit {c : Char} (h : c.isDigit = true) : 48 ≤ c.toNat ∧ c.toNat ≤ 57 := by
  simp only [Char.isDigit, Bool.and_eq_true, decide_eq_true_eq] at h
  exact ⟨h.1, h.2⟩

theorem isBlank_of_isDigit {c : Char} (h : c.isDigit = true) : isBlank c = false := by
  have hc := toNat_of_isDigit h
  simp only [isBlank, Bool.or_eq_false_iff, Bool.and_eq_false_iff, decide_eq_false_iff_not,
    beq_eq_false_iff_ne]
  omega

theorem trimLeft_of_not_blank {c : Char} (h : isBlank c = false) (cs : List Char) :
    trimLeft (c :: cs) = c :: cs := by
  simp [trimLeft, h]

theorem trimLeft_blanks {blanks : List Char} (h : ∀ c ∈ blanks, isBlank c = true)
    (cs : List Char) : trimLeft (blanks ++ cs) = trimLeft cs := by
  induction blanks with
  | nil => rfl
  | cons c blanks ih =>
    have hc : isBlank c = true := h c List.mem_cons_self
    have hrest : trimLeft (blanks ++ cs) = trimLeft cs :=
      ih fun b hb => h b (List.mem_cons_of_mem _ hb)
    simpa [trimLeft, hc] using hrest

theorem trimLeft_trimLeft (cs : List Char) : trimLeft (trimLeft cs) = trimLeft cs := by
  induction cs with
  | nil => rfl
  | cons c cs ih =>
    by_cases h : isBlank c = true
    · have hdrop : trimLeft (c :: cs) = trimLeft cs := by simp [trimLeft, h]
      rw [hdrop, ih]
    · have h : isBlank c = false := by simpa using h
      rw [trimLeft_of_not_blank h, trimLeft_of_not_blank h]

theorem trimRight_cons (c : Char) (cs : List Char) :
    trimRight (c :: cs) =
      if isBlank c = true ∧ trimRight cs = [] then [] else c :: trimRight cs := by
  unfold trimRight
  rw [List.reverse_cons, List.dropWhile_append]
  cases hrest : List.dropWhile isBlank cs.reverse with
  | nil => by_cases h : isBlank c = true <;> simp [h]
  | cons b bs => simp

theorem trimRight_append (cs : List Char) {c : Char} (hc : isBlank c = false)
    (rest : List Char) : trimRight (cs ++ c :: rest) = cs ++ c :: trimRight rest := by
  induction cs with
  | nil => simp [trimRight_cons, hc]
  | cons b cs ih => simp [trimRight_cons, ih]

theorem trimLeft_trimRight (cs : List Char) :
    trimLeft (trimRight cs) = trimRight (trimLeft cs) := by
  induction cs with
  | nil => rfl
  | cons c cs ih =>
    by_cases hc : isBlank c = true
    · have hdrop : ∀ tail, trimLeft (c :: tail) = trimLeft tail := by simp [trimLeft, hc]
      rw [hdrop, ← ih, trimRight_cons]
      split
      · rename_i h
        rw [h.2]
      · rw [hdrop]
    · have hc : isBlank c = false := by simpa using hc
      have hcons : trimRight (c :: cs) = c :: trimRight cs := by simp [trimRight_cons, hc]
      rw [trimLeft_of_not_blank hc, hcons, trimLeft_of_not_blank hc]

def Begins (cs : List Char) : Prop := ∃ c ∈ cs.head?, isBlank c = false

def Ends (cs : List Char) : Prop := ∃ c ∈ cs.getLast?, isBlank c = false

theorem begins_iff {cs : List Char} :
    Begins cs ↔ (cs.head?.any fun c => !isBlank c) = true := by
  simp [Begins, Option.any_eq_true]

theorem ends_iff {cs : List Char} : Ends cs ↔ (cs.getLast?.any fun c => !isBlank c) = true := by
  simp [Ends, Option.any_eq_true]

theorem Begins.append {cs : List Char} (h : Begins cs) (rest : List Char) :
    Begins (cs ++ rest) := by
  obtain ⟨c, hc, hb⟩ := h
  cases cs with
  | nil => cases hc
  | cons b cs => exact ⟨c, hc, hb⟩

theorem Ends.append {cs : List Char} (h : Ends cs) (front : List Char) : Ends (front ++ cs) := by
  obtain ⟨c, hc, hb⟩ := h
  obtain ⟨start, rfl⟩ := List.getLast?_eq_some_iff.mp hc
  refine ⟨c, ?_, hb⟩
  rw [← List.append_assoc]
  exact List.getLast?_concat

theorem Begins.trimLeft_eq {cs : List Char} (h : Begins cs) : trimLeft cs = cs := by
  obtain ⟨c, hc, hb⟩ := h
  cases cs with
  | nil => rfl
  | cons b cs =>
    obtain rfl : b = c := Option.some.inj hc
    exact trimLeft_of_not_blank hb cs

theorem Begins.trimRight {cs : List Char} (h : Begins cs) : Begins (trimRight cs) := by
  obtain ⟨c, hc, hb⟩ := h
  cases cs with
  | nil => cases hc
  | cons b cs =>
    obtain rfl : b = c := Option.some.inj hc
    exact ⟨b, by simp [trimRight_cons, hb], hb⟩

theorem Ends.trimRight_append {cs : List Char} (h : Ends cs) (rest : List Char) :
    Text.trimRight (cs ++ rest) = cs ++ Text.trimRight rest := by
  obtain ⟨c, hc, hb⟩ := h
  obtain ⟨front, rfl⟩ := List.getLast?_eq_some_iff.mp hc
  simpa using Text.trimRight_append front hb rest

/-- Trimming at the end leaves the start. -/
theorem head?_trimRight {cs : List Char} {c : Char} (h : c ∈ (trimRight cs).head?) :
    c ∈ cs.head? := by
  cases cs with
  | nil => exact h
  | cons b cs =>
    rw [trimRight_cons] at h
    split at h
    · cases h
    · exact h

end Text
end PermitPolicy
