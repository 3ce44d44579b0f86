/-! Tables: entries in ascending key order, one per key.  `Entries` holds the operations on
bare lists, which documents use for their members; `Table` adds the proof of order, so two
tables with the same look-ups are equal. -/

namespace PermitPolicy
set_option autoImplicit false

abbrev Entries (α : Type) := List (String × α)

namespace Entries
variable {α β : Type}

def get? (key : String) : Entries α → Option α
  | [] => none
  | (k, a) :: rest => if k = key then some a else get? key rest

/-- Puts an entry at its place, over an entry of the same key. -/
def insert (key : String) (a : α) : Entries α → Entries α
  | [] => [(key, a)]
  | (k, b) :: rest =>
    if key < k then (key, a) :: (k, b) :: rest
    else if k = key then (key, a) :: rest
    else (k, b) :: insert key a rest

/-- Inserts entries in order, so that the last one of a key stays. -/
def insertAll (es : Entries α) (new : List (String × α)) : Entries α :=
  new.foldl (fun acc e => insert e.1 e.2 acc) es

def ofList (es : List (String × α)) : Entries α := insertAll [] es

def Sorted (es : Entries α) : Prop := es.Pairwise fun a b => a.1 < b.1

instance (es : Entries α) : Decidable es.Sorted :=
  inferInstanceAs (Decidable (es.Pairwise fun a b => a.1 < b.1))

@[simp] theorem get?_nil (key : String) : get? key ([] : Entries α) = none := rfl

@[simp] theorem get?_cons (key k : String) (a : α) (es : Entries α) :
    get? key ((k, a) :: es) = if k = key then some a else get? key es := rfl

theorem get?_insert (key k : String) (a : α) (es : Entries α) :
    get? k (insert key a es) = if key = k then some a else get? k es := by
  induction es with
  | nil => simp [insert]
  | cons e rest ih =>
    obtain ⟨j, b⟩ := e
    simp only [insert]
    split
    · simp only [get?_cons]
    · split
      · next h => subst h; simp only [get?_cons]; split <;> rfl
      · next h =>
        simp only [get?_cons, ih]
        by_cases hk : j = k
        · have : key ≠ k := fun e => h (hk.trans e.symm)
          simp [hk, this]
        · simp [hk]

theorem mem_insert {key : String} {a : α} {e : String × α} {es : Entries α}
    (h : e ∈ insert key a es) : e = (key, a) ∨ e ∈ es := by
  induction es with
  | nil => exact .inl (List.mem_singleton.mp h)
  | cons d rest ih =>
    obtain ⟨k, b⟩ := d
    simp only [insert] at h
    split at h
    · exact (List.mem_cons.mp h)
    · split at h
      · rcases List.mem_cons.mp h with h | h
        · exact .inl h
        · exact .inr (List.mem_cons_of_mem _ h)
      · rcases List.mem_cons.mp h with h | h
        · exact .inr (h ▸ List.mem_cons_self)
        · exact (ih h).imp_right (List.mem_cons_of_mem _)

theorem insert_sorted (key : String) (a : α) {es : Entries α} (h : es.Sorted) :
    (insert key a es).Sorted := by
  induction es with
  | nil => simp [insert, Sorted]
  | cons e rest ih =>
    obtain ⟨k, b⟩ := e
    have hr : Sorted rest := (List.pairwise_cons.mp h).2
    have hk : ∀ e ∈ rest, k < e.1 := (List.pairwise_cons.mp h).1
    simp only [insert]
    split
    · next hlt =>
      refine List.pairwise_cons.mpr ⟨?_, h⟩
      intro e he
      rcases List.mem_cons.mp he with rfl | he
      · exact hlt
      · exact String.lt_trans hlt (hk e he)
    · next hge =>
      split
      · next heq => exact List.pairwise_cons.mpr ⟨fun e he => heq ▸ hk e he, hr⟩
      · next hne =>
        refine List.pairwise_cons.mpr ⟨?_, ih hr⟩
        intro e he
        rcases mem_insert he with rfl | he
        · exact (String.not_le.mp fun hle =>
            hne (String.le_antisymm (String.not_lt.mp hge) hle))
        · exact hk e he

theorem insertAll_sorted {es : Entries α} (new : List (String × α)) (h : es.Sorted) :
    (insertAll es new).Sorted := by
  induction new generalizing es with
  | nil => exact h
  | cons e rest ih => exact ih (insert_sorted e.1 e.2 h)

theorem ofList_sorted (es : List (String × α)) : (ofList es).Sorted :=
  insertAll_sorted es .nil

end Entries

/-- A map with its entries in key order. -/
structure Table (α : Type) where
  entries : Entries α
  sorted : entries.Sorted

namespace Table
variable {α β : Type}

def empty : Table α := ⟨[], .nil⟩

instance : Inhabited (Table α) := ⟨empty⟩

instance [DecidableEq α] : DecidableEq (Table α) := fun a b =>
  decidable_of_iff (a.entries = b.entries) (by cases a; cases b; simp)

def get? (t : Table α) (key : String) : Option α := Entries.get? key t.entries

def contains (t : Table α) (key : String) : Bool := (t.get? key).isSome

def insert (t : Table α) (key : String) (a : α) : Table α :=
  ⟨Entries.insert key a t.entries, Entries.insert_sorted key a t.sorted⟩

/-- The table of a list of entries; the last entry of a key stays. -/
def ofList (es : List (String × α)) : Table α := ⟨Entries.ofList es, Entries.ofList_sorted es⟩

def keys (t : Table α) : List String := t.entries.map (·.1)

def size (t : Table α) : Nat := t.entries.length

def isEmpty (t : Table α) : Bool := t.entries.isEmpty

def filterKeys (keep : String → Bool) (t : Table α) : Table α :=
  ⟨t.entries.filter fun e => keep e.1, t.sorted.filter _⟩

@[simp] theorem get?_empty (key : String) : (empty : Table α).get? key = none := rfl

@[simp] theorem get?_insert (t : Table α) (key k : String) (a : α) :
    (t.insert key a).get? k = if key = k then some a else t.get? k :=
  Entries.get?_insert key k a t.entries

theorem contains_iff {t : Table α} {key : String} :
    t.contains key ↔ ∃ a, t.get? key = some a := Option.isSome_iff_exists

theorem not_contains_iff {t : Table α} {key : String} : ¬ t.contains key ↔ t.get? key = none :=
  Option.not_isSome_iff_eq_none

end Table
end PermitPolicy
