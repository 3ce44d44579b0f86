import PermitPolicy.Proofs.AllowedVehicles

/-! The names of some entries of a catalog.  Ids may be picked in the table of all names, or their
entries selected before names are taken; both give an id the name of its last entry, also where ids
repeat.  Picking ids is the same as sharing with any table of these ids. -/

namespace PermitPolicy.Catalog
set_option autoImplicit false

/-- An entry that no later one of its id follows. -/
def IsLast (entries : List CatalogEntry) (e : CatalogEntry) : Prop :=
  ∃ before after, entries = before ++ e :: after ∧ ∀ later ∈ after, later.id ≠ e.id

variable (entries : List CatalogEntry) (ids : List String) (id : String)

theorem get?_entries : Entries.get? id (entries.map fun e => (e.id, e.name)) =
    (entries.find? fun e => e.id = id).map CatalogEntry.name := by
  induction entries with
  | nil => rfl
  | cons e entries ih =>
    rw [List.map_cons, Entries.get?_cons, List.find?_cons]
    by_cases h : e.id = id
    · simp [h]
    · simp [h, ih]

theorem find?_reverse_eq_some_iff {e : CatalogEntry} :
    (entries.reverse.find? fun e => e.id = id) = some e ↔ IsLast entries e ∧ e.id = id := by
  rw [List.find?_eq_some_iff_append]
  constructor
  · rintro ⟨hid, later, earlier, heq, hlater⟩
    obtain rfl := of_decide_eq_true hid
    refine ⟨⟨earlier.reverse, later.reverse, ?_, ?_⟩, rfl⟩
    · rw [← List.reverse_reverse entries, heq]
      simp
    · intro e' he'
      simpa using hlater e' (List.mem_reverse.mp he')
  · rintro ⟨⟨before, after, heq, hafter⟩, rfl⟩
    refine ⟨decide_eq_true rfl, after.reverse, before.reverse, ?_, ?_⟩
    · rw [heq]
      simp
    · intro later hlater
      simpa using hafter later (List.mem_reverse.mp hlater)

/-- The name of an id is that of its last entry. -/
theorem get?_names_eq_some_iff {name : String} : (names entries).get? id = some name ↔
    ∃ e, IsLast entries e ∧ e.id = id ∧ e.name = name := by
  rw [names, Table.get?_ofList, ← List.map_reverse, get?_entries, Option.map_eq_some_iff]
  simp only [find?_reverse_eq_some_iff, and_assoc]

theorem get?_names_select : (names (select entries ids)).get? id =
    if id ∈ ids then (names entries).get? id else none := by
  have hfilter : ((select entries ids).map fun e => (e.id, e.name)) =
      (entries.map fun e => (e.id, e.name)).filter fun e => ids.contains e.1 := by
    rw [select, List.filter_map]
    rfl
  rw [names, Table.get?_ofList, hfilter, ← List.filter_reverse,
    Entries.get?_filter id ids.contains, ← Table.get?_ofList, ← names]
  simp only [List.contains_iff_mem]

/-- Selecting entries before names are taken, picking ids in the names and sharing the names with a
table of these ids come to one table, in which each id has the name of its last entry. -/
theorem names_of_selected :
    names (select entries ids) = pick (names entries) ids ∧
      (∀ id name, (pick (names entries) ids).get? id = some name ↔
        id ∈ ids ∧ ∃ e, IsLast entries e ∧ e.id = id ∧ e.name = name) ∧
      ∀ m k : NameTable, (∀ id, id ∈ k.keys ↔ id ∈ ids) → pick m ids = shared m k := by
  refine ⟨?_, ?_, ?_⟩
  · apply Table.ext_get?
    intro id
    rw [get?_names_select, get?_pick]
  · intro id name
    rw [get?_pick, ← get?_names_eq_some_iff]
    by_cases h : id ∈ ids <;> simp [h]
  · intro m k hk
    apply Table.ext_get?
    intro id
    have hcontains : k.contains id ↔ id ∈ ids := Table.mem_keys_iff.symm.trans (hk id)
    rw [get?_pick, get?_shared]
    simp only [hcontains]

/-- An id that is listed twice and asked for twice, and one that is not listed. -/
theorem names_of_selected_repeated_id :
    let entries : List CatalogEntry :=
      [⟨"OIL", "Oil", none⟩, ⟨"GAS", "Gas", none⟩, ⟨"OIL", "Crude oil", some "bulk"⟩]
    let ids := ["OIL", "COAL", "OIL"]
    let k : NameTable := .ofList [("OIL", "any"), ("COAL", "any")]
    (∀ id, id ∈ k.keys ↔ id ∈ ids) ∧ names (select entries ids) = shared (names entries) k ∧
      (names (select entries ids)).get? "OIL" = some "Crude oil" ∧
      (pick (names entries) ids).get? "COAL" = none := by
  intro entries ids k
  have hkeys : k.keys = ["COAL", "OIL"] := by decide
  have hk : ∀ id, id ∈ k.keys ↔ id ∈ ids := by
    intro id
    rw [hkeys]
    grind
  obtain ⟨hselect, hpick, hshared⟩ := names_of_selected entries ids
  have hlast : IsLast entries ⟨"OIL", "Crude oil", some "bulk"⟩ := 
    ⟨[⟨"OIL", "Oil", none⟩, ⟨"GAS", "Gas", none⟩], [], rfl, nofun⟩
  refine ⟨hk, hselect.trans (hshared _ k hk), ?_, ?_⟩
  · rw [hselect]
    exact (hpick "OIL" "Crude oil").mpr ⟨List.mem_cons_self, _, hlast, rfl, rfl⟩
  · apply Option.eq_none_iff_forall_not_mem.mpr
    intro name hname
    obtain ⟨-, e, ⟨before, after, heq, -⟩, hid, -⟩ := (hpick "COAL" name).mp hname
    have hmem : e ∈ entries := heq ▸ List.mem_append_right before List.mem_cons_self
    have hlisted : ∀ e ∈ entries, e.id ≠ "COAL" := by decide
    exact hlisted e hmem hid

end PermitPolicy.Catalog
