import PermitPolicy.Table

/-! Look-ups in entries: after insertions the last entry of a key counts, and in sorted
entries a key has one entry, so a search from the end is a search by descending keys, and the
look-ups determine the entries. -/

namespace PermitPolicy
set_option autoImplicit false

namespace Entries
variable {α β : Type}

theorem get?_append (key : String) (es fs : Entries α) :
    get? key (es ++ fs) = (get? key es).or (get? key fs) := by
  induction es with
  | nil => rfl
  | cons e es ih =>
    obtain ⟨k, a⟩ := e
    simp only [List.cons_append, get?_cons, ih]
    split <;> rfl

theorem get?_eq_none_iff {key : String} {es : Entries α} :
    get? key es = none ↔ ∀ e ∈ es, e.1 ≠ key := by
  induction es with
  | nil => simp
  | cons e es ih =>
    obtain ⟨k, a⟩ := e
    by_cases h : k = key
    · simp [h]
    · simp [h, ih]

theorem mem_of_get? {key : String} {a : α} {es : Entries α} (h : get? key es = some a) :
    (key, a) ∈ es := by
  induction es with
  | nil => cases h
  | cons e es ih =>
    obtain ⟨k, b⟩ := e
    rw [get?_cons] at h
    split at h
    · rename_i hk
      obtain rfl := Option.some.inj h
      exact hk ▸ List.mem_cons_self
    · exact List.mem_cons_of_mem _ (ih h)

theorem get?_eq_some_iff {es : Entries α} (h : (es.map (·.1)).Nodup) {key : String} {a : α} :
    get? key es = some a ↔ (key, a) ∈ es := by
  refine ⟨mem_of_get?, ?_⟩
  intro hmem
  induction es with
  | nil => cases hmem
  | cons e es ih =>
    obtain ⟨k, b⟩ := e
    obtain ⟨hk, hes⟩ := List.nodup_cons.mp h
    rw [get?_cons]
    rcases List.mem_cons.mp hmem with heq | hmem
    · cases heq
      exact if_pos rfl
    · have hne : k ≠ key := fun he => hk (List.mem_map.mpr ⟨_, hmem, he.symm⟩)
      rw [if_neg hne]
      exact ih hes hmem

theorem Sorted.nodup {es : Entries α} (hs : es.Sorted) : (es.map (·.1)).Nodup := by
  apply List.nodup_iff_pairwise_ne.mpr
  apply List.pairwise_map.mpr
  apply hs.imp
  rintro a b hlt heq
  exact String.lt_irrefl b.1 (heq ▸ hlt)

theorem Sorted.get?_of_mem {es : Entries α} (hs : es.Sorted) {key : String} {a : α}
    (h : (key, a) ∈ es) : get? key es = some a :=
  (get?_eq_some_iff hs.nodup).mpr h

theorem get?_insertAll (key : String) (es : Entries α) (new : List (String × α)) :
    get? key (insertAll es new) = (get? key new.reverse).or (get? key es) := by
  induction new generalizing es with
  | nil => rfl
  | cons e new ih =>
    obtain ⟨k, a⟩ := e
    have hstep : insertAll es ((k, a) :: new) = insertAll (insert k a es) new := rfl
    rw [hstep, ih, get?_insert, List.reverse_cons, get?_append, get?_cons, get?_nil]
    cases get? key new.reverse <;> split <;> rfl

theorem get?_ofList (key : String) (es : List (String × α)) :
    get? key (ofList es) = get? key es.reverse := by
  rw [ofList, get?_insertAll, get?_nil, Option.or_none]

theorem sorted_cons {k : String} {a : α} {es : Entries α} :
    Sorted ((k, a) :: es) ↔ (∀ e ∈ es, k < e.1) ∧ Sorted es :=
  List.pairwise_cons

theorem get?_eq_none_of_not_lt {key k : String} {es : Entries α} (h : ∀ e ∈ es, k < e.1)
    (hk : ¬ k < key) : get? key es = none := by
  apply get?_eq_none_iff.mpr
  rintro e he rfl
  exact hk (h e he)

/-- A search by descending keys, with one more hit below all others. -/
theorem findSome?_or {keys : List String} (hk : keys.Pairwise fun j k => k < j) {k : String}
    {b : Option β} (hb : b ≠ none → k ∈ keys) {f g : String → Option β} (hat : f k = b)
    (hoff : ∀ j, j ≠ k → f j = g j) (hbelow : ∀ j, ¬ k < j → g j = none) :
    keys.findSome? f = (keys.findSome? g).or b := by
  induction keys with
  | nil =>
    have : b = none := Classical.byContradiction fun h => List.not_mem_nil (hb h)
    rw [this]
    rfl
  | cons j keys ih =>
    obtain ⟨hlt, hk⟩ := List.pairwise_cons.mp hk
    rw [List.findSome?_cons, List.findSome?_cons]
    by_cases hj : j = k
    · subst hj
      have hrest : ∀ i ∈ keys, g i = none := fun i hi =>
        hbelow i fun h => String.lt_irrefl i (String.lt_trans (hlt i hi) h)
      have hg : keys.findSome? g = none := List.findSome?_eq_none_iff.mpr hrest
      have hf : keys.findSome? f = none := by
        apply List.findSome?_eq_none_iff.mpr
        intro i hi
        have hne : i ≠ j := fun h => String.lt_irrefl j (h ▸ hlt i hi)
        rw [hoff i hne, hrest i hi]
      rw [hat, hf, hbelow j (String.lt_irrefl j), hg]
      cases b <;> rfl
    · have hb' : b ≠ none → k ∈ keys := fun h => by
        rcases List.mem_cons.mp (hb h) with rfl | h
        · exact absurd rfl hj
        · exact h
      rw [hoff j hj, ih hk hb']
      cases g j <;> rfl

/-- If a search through sorted entries can only succeed at certain keys, these may be tried
one after the other, from the greatest to the least. -/
theorem findSome?_reverse {es : Entries α} (hs : es.Sorted) {keys : List String}
    (hk : keys.Pairwise fun j k => k < j) {f : String → α → Option β}
    (hf : ∀ e ∈ es, f e.1 e.2 ≠ none → e.1 ∈ keys) :
    es.reverse.findSome? (fun e => f e.1 e.2) =
      keys.findSome? fun k => (get? k es).bind (f k) := by
  induction es with
  | nil =>
    symm
    exact List.findSome?_eq_none_iff.mpr fun _ _ => rfl
  | cons e es ih =>
    obtain ⟨k, a⟩ := e
    obtain ⟨hlt, hs⟩ := sorted_cons.mp hs
    rw [List.reverse_cons, List.findSome?_append, List.findSome?_singleton,
      ih hs fun e he => hf e (List.mem_cons_of_mem _ he)]
    symm
    apply findSome?_or hk (hf (k, a) List.mem_cons_self)
    · simp
    · intro j hj
      simp [Ne.symm hj]
    · intro j hj
      rw [get?_eq_none_of_not_lt hlt hj]
      rfl

/-- Sorted entries with the same look-ups are the same. -/
theorem ext_get? {es fs : Entries α} (he : es.Sorted) (hf : fs.Sorted)
    (h : ∀ key, get? key es = get? key fs) : es = fs := by
  induction es generalizing fs with
  | nil =>
    cases fs with
    | nil => rfl
    | cons f fs =>
      obtain ⟨l, b⟩ := f
      have hl := h l
      simp at hl
  | cons e es ih =>
    obtain ⟨k, a⟩ := e
    cases fs with
    | nil =>
      have hk := h k
      simp at hk
    | cons f fs =>
      obtain ⟨l, b⟩ := f
      obtain ⟨hk, hes⟩ := sorted_cons.mp he
      obtain ⟨hl, hfs⟩ := sorted_cons.mp hf
      have hkl : k = l := by
        by_cases hkl : k = l
        · exact hkl
        · have hk' := h k
          have hl' := h l
          simp only [get?_cons, if_true, if_neg (Ne.symm hkl)] at hk'
          simp only [get?_cons, if_true, if_neg hkl] at hl'
          exact absurd (String.lt_trans (hl _ (mem_of_get? hk'.symm)) (hk _ (mem_of_get? hl')))
            (String.lt_irrefl l)
      subst hkl
      have hab := h k
      simp only [get?_cons, if_true, Option.some.injEq] at hab
      subst hab
      have hrest : es = fs := by
        apply ih hes hfs
        intro key
        have hkey := h key
        simp only [get?_cons] at hkey
        by_cases heq : k = key
        · subst heq
          rw [get?_eq_none_of_not_lt hk (String.lt_irrefl k),
            get?_eq_none_of_not_lt hl (String.lt_irrefl k)]
        · simpa only [if_neg heq] using hkey
      rw [hrest]

theorem get?_map (key : String) (f : String → α → β) (es : Entries α) :
    get? key (es.map fun e => (e.1, f e.1 e.2)) = (get? key es).map (f key) := by
  induction es with
  | nil => rfl
  | cons e es ih =>
    obtain ⟨k, a⟩ := e
    by_cases h : k = key
    · simp [h]
    · simp [h, ih]

theorem get?_filter (key : String) (keep : String → Bool) (es : Entries α) :
    get? key (es.filter fun e => keep e.1) = if keep key then get? key es else none := by
  induction es with
  | nil => simp
  | cons e es ih =>
    obtain ⟨k, a⟩ := e
    by_cases h : k = key
    · subst h
      cases hk : keep k <;> simp [hk, ih]
    · cases hk : keep k <;> simp [hk, ih, h]

theorem get?_reverse {es : Entries α} (hs : es.Sorted) (key : String) :
    get? key es.reverse = get? key es := by
  induction es with
  | nil => rfl
  | cons e es ih =>
    obtain ⟨k, a⟩ := e
    obtain ⟨hk, hs⟩ := sorted_cons.mp hs
    rw [List.reverse_cons, get?_append, ih hs, get?_cons, get?_cons, get?_nil]
    split
    · rename_i heq
      subst heq
      rw [get?_eq_none_of_not_lt hk (String.lt_irrefl k)]
      rfl
    · exact Option.or_none

theorem isSome_get?_iff {key : String} {es : Entries α} :
    (get? key es).isSome ↔ key ∈ es.map (·.1) := by
  rw [Option.isSome_iff_ne_none, ne_eq, get?_eq_none_iff]
  simp

theorem ofList_of_sorted {es : Entries α} (hs : es.Sorted) : ofList es = es := by
  apply ext_get? (ofList_sorted es) hs
  intro key
  rw [get?_ofList, get?_reverse hs]

end Entries

namespace Table
variable {α : Type}

theorem get?_ofList (key : String) (es : List (String × α)) :
    (Table.ofList es).get? key = Entries.get? key es.reverse :=
  Entries.get?_ofList key es

/-- Tables with the same look-ups are the same. -/
theorem ext_get? {t u : Table α} (h : ∀ key, t.get? key = u.get? key) : t = u := by
  have hentries : t.entries = u.entries := Entries.ext_get? t.sorted u.sorted h
  cases t
  cases u
  cases hentries
  rfl

end Table
end PermitPolicy
