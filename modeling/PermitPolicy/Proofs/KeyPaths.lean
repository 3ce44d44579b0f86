import PermitPolicy.Proofs.PathSelection
import PermitPolicy.Proofs.RuleDecision

/-! Facts and key paths.  Where every key of a document is a word without dots, its facts are the
subtrees of the completed document, each under the name of the one path that leads to it, and a
path into a fact selects what the fact of the longer name holds. -/

namespace PermitPolicy
open Json
set_option autoImplicit false

namespace DottedName

/-- Words without dots are told apart by their dotted name. -/
theorem dotted_inj {p q : List String} (hp : p ≠ []) (hq : q ≠ []) (hplain : Plain p)
    (hqplain : Plain q) (h : dotted p = dotted q) : p = q := by
  induction p generalizing q with
  | nil => exact absurd rfl hp
  | cons word words ih =>
    obtain ⟨key, keys, rfl⟩ := List.exists_cons_of_ne_nil hq
    have hword := hplain.head.2
    have hkey := hqplain.head.2
    by_cases hwords : words = []
    · by_cases hkeys : keys = []
      · subst hwords hkeys
        exact congrArg (fun w => [w]) h
      · rw [hwords, dotted_cons key hkeys] at h
        have hl : word.toList = _ := congrArg String.toList h
        exact absurd (by simp [hl]) hword
    · by_cases hkeys : keys = []
      · rw [hkeys, dotted_cons word hwords] at h
        have hl : _ = key.toList := congrArg String.toList h
        exact absurd (by simp [← hl]) hkey
      · rw [dotted_cons word hwords, dotted_cons key hkeys] at h
        rcases first_word hword h with ⟨rfl, hrest⟩ | ⟨j, hj, -⟩
        · rw [ih hwords hkeys hplain.tail hqplain.tail hrest]
        · have hl : key.toList = _ := congrArg String.toList hj
          exact absurd (by simp [hl]) hkey

end DottedName

namespace Json.Value
open DottedName

mutual
/-- No key of the objects within objects is empty or has a dot. -/
def hasPlainKeys : Value → Bool
  | .object ms => havePlainKeys ms
  | _ => true

def havePlainKeys : List (String × Value) → Bool
  | [] => true
  | (key, v) :: ms => decide (Plain [key]) && hasPlainKeys v && havePlainKeys ms
end

/-- A path of at least one key and the value that it leads to through nested objects. -/
structure Branch (m : Value) (path : List String) (v : Value) : Prop where
  ne_nil : path ≠ []
  descend : m.descend? path = some v

def PlainPaths (m : Value) : Prop := ∀ path v, m.descend? path = some v → Plain path

theorem of_havePlainKeys {ms : List (String × Value)} (h : havePlainKeys ms = true) :
    ∀ m ∈ ms, Plain [m.1] ∧ m.2.hasPlainKeys = true := by
  induction ms with
  | nil => exact List.forall_mem_nil _
  | cons m ms ih =>
    obtain ⟨key, v⟩ := m
    rw [havePlainKeys, Bool.and_eq_true, Bool.and_eq_true, decide_eq_true_eq] at h
    obtain ⟨⟨hkey, hv⟩, hms⟩ := h
    intro m hm
    rcases List.mem_cons.mp hm with rfl | hm
    · exact ⟨hkey, hv⟩
    · exact ih hms m hm

theorem plain_cons {key : String} {keys : List String} (hkey : Plain [key]) (hkeys : Plain keys) :
    Plain (key :: keys) := by
  intro word hword
  rcases List.mem_cons.mp hword with rfl | hword
  · exact hkey.head
  · exact hkeys word hword

theorem plainPaths {m : Value} (h : m.hasPlainKeys = true) : m.PlainPaths := by
  intro path v hpath
  induction path generalizing m with
  | nil => nofun
  | cons key keys ih =>
    cases m with
    | object ms =>
      obtain ⟨w, hw, hkeys⟩ := Option.bind_eq_some_iff.mp hpath
      obtain ⟨hkey, hplain⟩ := of_havePlainKeys h _ (Entries.mem_of_get? hw)
      exact plain_cons hkey (ih hplain hkeys)
    | _ => cases hpath

theorem PlainPaths.overlay {base d : Value} (hd : d.Canonical) (hb : base.PlainPaths)
    (hp : d.PlainPaths) : (base.overlay d).PlainPaths := by
  intro path v hpath
  cases hbase : base.descend? path with
  | some w => exact hb path w hbase
  | none =>
    rw [descend?_overlay_of_none hd hbase] at hpath
    exact hp path v hpath

theorem descend?_append (m : Value) (p q : List String) :
    m.descend? (p ++ q) = (m.descend? p).bind (descend? q) := by
  induction p generalizing m with
  | nil => rfl
  | cons key p ih =>
    rw [List.cons_append, descend?, descend?]
    cases m.get? key with
    | none => rfl
    | some v => exact ih v

theorem PlainPaths.member {ms : List (String × Value)} (h : PlainPaths (.object ms))
    {key : String} {v : Value} (hv : Entries.get? key ms = some v) :
    key ≠ "" ∧ v.PlainPaths := by
  have hkeys : ∀ keys w, v.descend? keys = some w → Plain (key :: keys) := by
    intro keys w hw
    apply h _ w
    rw [descend?, get?_object, hv]
    exact hw
  exact ⟨(hkeys [] v rfl).head.1, fun keys w hw => (hkeys keys w hw).tail⟩

mutual
/-- Every fact of a document is a subtree under the name of its path. -/
theorem branch_of_mem_flatten {parent : String} : (m : Value) → m.Canonical → m.PlainPaths →
    ∀ e ∈ m.flatten parent, ∃ path, m.Branch path e.2 ∧ e.1 = memberName parent (dotted path)
  | .object ms, hc, hp => by
    intro e he
    rw [flatten] at he
    have hmembers : ∀ m ∈ ms, m.1 ≠ "" ∧ m.2.Canonical ∧ m.2.PlainPaths := by
      intro m hm
      have hget := hc.sorted.get?_of_mem hm
      exact ⟨(hp.member hget).1, hc.get? hget, (hp.member hget).2⟩
    obtain ⟨m, hm, path, hpath, hname⟩ := branch_of_mem_flattenMembers ms hmembers e he
    refine ⟨m.1 :: path, ⟨List.cons_ne_nil _ _, ?_⟩, hname⟩
    rw [descend?, get?_object, hc.sorted.get?_of_mem hm]
    exact hpath
  | .null, _, _ | .bool _, _, _ | .number _, _, _ | .string _, _, _ | .array _, _, _ => by
    simp [flatten]

theorem branch_of_mem_flattenMembers {parent : String} : (ms : List (String × Value)) →
    (∀ m ∈ ms, m.1 ≠ "" ∧ m.2.Canonical ∧ m.2.PlainPaths) →
    ∀ e ∈ flattenMembers parent ms, ∃ m ∈ ms, ∃ path, m.2.descend? path = some e.2 ∧
      e.1 = memberName parent (dotted (m.1 :: path))
  | [], _ => by simp [flattenMembers]
  | (key, v) :: ms, h => by
    intro e he
    obtain ⟨hkey, hc, hp⟩ := h _ List.mem_cons_self
    rw [flattenMembers] at he
    rcases List.mem_append.mp he with he | he
    · obtain ⟨path, hbranch, hname⟩ := branch_of_mem_flatten v hc hp e he
      refine ⟨_, List.mem_cons_self, path, hbranch.descend, ?_⟩
      rw [hname, memberName_memberName (Or.inr hkey), dotted_cons key hbranch.ne_nil]
    · rcases List.mem_cons.mp he with rfl | he
      · exact ⟨_, List.mem_cons_self, [], rfl, rfl⟩
      · obtain ⟨m, hm, found⟩ := branch_of_mem_flattenMembers ms
          (fun m hm => h m (List.mem_cons_of_mem _ hm)) e he
        exact ⟨m, List.mem_cons_of_mem _ hm, found⟩
end

theorem findSome?_of_only {α β : Type} {l : List α} {f : α → Option β} {a : α} (ha : a ∈ l)
    (h : ∀ b ∈ l, f b ≠ none → b = a) : l.findSome? f = f a := by
  cases hl : l.findSome? f with
  | none => exact (List.findSome?_eq_none_iff.mp hl a ha).symm
  | some c =>
    obtain ⟨b, hb, hf⟩ := List.exists_of_findSome?_eq_some hl
    obtain rfl := h b hb (by simp [hf])
    exact hf.symm

/-- Among plain paths a name has one path only, so nothing else has a bearing on its fact. -/
theorem lastNamed?_dotted {m : Value} (hc : m.Canonical) (hp : m.PlainPaths) {path : List String}
    (hne : path ≠ []) (hplain : Plain path) :
    lastNamed? "" (dotted path) m = m.descend? path := by
  have hblank : m.get? "" = none := by
    cases hget : m.get? "" with
    | none => rfl
    | some v =>
      have hpath : m.descend? [""] = some v := by
        rw [descend?, hget]
        rfl
      exact absurd rfl (hp _ _ hpath).head.1
  have hself : path ∈ groupings path := List.mem_append_right _ List.mem_cons_self
  have honly : ∀ q ∈ groupings path, m.descend? q ≠ none → q = path := by
    intro q hq hdescend
    obtain ⟨v, hv⟩ := Option.ne_none_iff_exists'.mp hdescend
    exact dotted_inj (ne_nil_of_mem_groupings hne hq) hne (hp q v hv) hplain
      (dotted_of_mem_groupings hne hq)
  rw [lastNamed?_root hne hplain hc, hblank, findSome?_of_only hself honly]
  exact Option.or_none

end Json.Value

namespace Facts
open Value Calendar DottedName
variable {d : Value} (today : Date) (format : DateFormat)

theorem plainPaths_completed (hd : d.Canonical) (hk : d.hasPlainKeys = true) :
    (completed d).PlainPaths :=
  (plainPaths (by decide)).overlay hd (plainPaths hk)

theorem get?_branch (hd : d.Canonical) (hk : d.hasPlainKeys = true) {path : List String}
    (hne : path ≠ []) (hplain : Plain path) (hname : dotted path ∉ derivedNames) :
    (ofDocument d today format).get? (dotted path) = (completed d).descend? path := by
  rw [get?_ofDocument hname]
  exact lastNamed?_dotted (completed_canonical hd) (plainPaths_completed hd hk) hne hplain

theorem mem_keys_ofDocument (hd : d.Canonical) (hk : d.hasPlainKeys = true) {name : String} :
    name ∈ (ofDocument d today format).keys ↔
      name ∈ derivedNames ∨ ∃ path v, (completed d).Branch path v ∧ name = dotted path := by
  rw [Table.mem_keys_iff, contains_ofDocument_iff]
  have hpaths := plainPaths_completed hd hk
  apply or_congr_right
  constructor
  · intro h
    obtain ⟨v, hv⟩ := Option.isSome_iff_exists.mp h
    obtain ⟨path, hbranch, hname⟩ := branch_of_mem_flatten _ (completed_canonical hd) hpaths _
      (List.mem_reverse.mp (Entries.mem_of_get? hv))
    exact ⟨path, v, hbranch, hname⟩
  · rintro ⟨path, v, hbranch, rfl⟩
    rw [lastNamed?_dotted (completed_canonical hd) hpaths hbranch.ne_nil
      (hpaths path v hbranch.descend), hbranch.descend]
    rfl

theorem not_object_of_derived {name : String} (h : name ∈ derivedNames) {v : Value}
    (hv : (ofDocument d today format).get? name = some v) : v.isObject = false := by
  have hoption : ∀ {α : Type} (encode : α → Value) (o : Option α),
      (∀ a, (encode a).isObject = false) → (Value.ofOption encode o).isObject = false := by
    intro α encode o hencode
    cases o with
    | none => rfl
    | some a => exact hencode a
  simp only [ofDocument, Table.get?_insert] at hv
  simp only [derivedNames, List.mem_cons, List.not_mem_nil, or_false] at h
  split at hv
  · exact Option.some.inj hv ▸ hoption _ _ fun _ => rfl
  · split at hv
    · exact Option.some.inj hv ▸ hoption _ _ fun _ => rfl
    · split at hv
      · exact Option.some.inj hv ▸ rfl
      · rcases h with rfl | rfl | rfl <;> contradiction

theorem foldlM_keys (v : Value) (keys : List String) :
    (keys.map PathStep.key).foldlM Path.stepWithin? v = v.descend? keys := by
  induction keys generalizing v with
  | nil => rfl
  | cons key keys ih =>
    rw [List.map_cons, List.foldlM_cons, Path.stepWithin?_key, descend?]
    cases v.get? key with
    | none => rfl
    | some w => exact ih w

theorem resolve?_keys {facts : Facts} {name : String} {v : Value} (hv : facts.get? name = some v)
    {keys : List String} (hl : Path.Legible (keys.map .key)) :
    facts.resolve? name (some (Path.write (keys.map .key))) =
      some ((v.descend? keys).getD .null) := by
  have hselect := Path.select?_write_eq hl v
  rw [foldlM_keys] at hselect
  rw [resolve?, hv, ← hselect]
  rfl

theorem plain_of_legible {keys : List String} (hl : Path.Legible (keys.map .key)) : Plain keys := by
  intro key hkey
  obtain ⟨hne, hdot, -⟩ := hl.word key (List.mem_map_of_mem hkey)
  exact ⟨hne, hdot⟩

theorem dotted_not_mem_derivedNames (name : String) {keys : List String} (hk : keys ≠ []) :
    dotted (name :: keys) ∉ derivedNames := by
  have hdots : ∀ derived ∈ derivedNames, '.' ∉ derived.toList := by decide
  intro h
  apply hdots _ h
  rw [dotted_cons name hk]
  simp

/-- The facts are the subtrees of the completed document by the dotted names of their paths, with
the three derived facts put over them.  Each has a name of its own, and what a written path selects
in an object is the fact of the name with the keys of the path added, or `null` without one. -/
theorem facts_are_subtrees (hd : d.Canonical) (hk : d.hasPlainKeys = true) :
    let facts := ofDocument d today format
    let m := completed d
    (∀ name, name ∈ facts.keys ↔
        name ∈ derivedNames ∨ ∃ path v, m.Branch path v ∧ name = dotted path) ∧
      (∀ p q v w, m.Branch p v → m.Branch q w → dotted p = dotted q → p = q) ∧
      (∀ path v, m.Branch path v → dotted path ∉ derivedNames →
        facts.get? (dotted path) = some v) ∧
      ∀ name ms keys, facts.get? name = some (.object ms) → keys ≠ [] →
        Path.Legible (keys.map .key) →
        facts.resolve? name (some (Path.write (keys.map .key))) =
          some ((facts.get? (dotted (name :: keys))).getD .null) := by
  intro facts m
  have hpaths : m.PlainPaths := plainPaths_completed hd hk
  refine ⟨fun name => mem_keys_ofDocument today format hd hk, ?_, ?_, ?_⟩
  · intro p q v w hp hq hname
    exact dotted_inj hp.ne_nil hq.ne_nil (hpaths p v hp.descend) (hpaths q w hq.descend) hname
  · intro path v hbranch hname
    rw [get?_branch today format hd hk hbranch.ne_nil (hpaths path v hbranch.descend) hname]
    exact hbranch.descend
  · intro name ms keys hobject hkeys hl
    have hplain := plain_of_legible hl
    have hname : name ∉ derivedNames := fun h =>
      Bool.noConfusion (not_object_of_derived today format h hobject)
    have hmem : name ∈ facts.keys :=
      Table.mem_keys_iff.mpr (Table.contains_iff.mpr ⟨_, hobject⟩)
    rcases (mem_keys_ofDocument today format hd hk).mp hmem with h | ⟨path, v, hbranch, rfl⟩
    · exact absurd h hname
    have hpath := hpaths path v hbranch.descend
    have hfact := get?_branch today format hd hk hbranch.ne_nil hpath hname
    have hlonger : dotted (dotted path :: keys) = dotted (path ++ keys) := by
      rw [dotted_append hbranch.ne_nil hkeys, dotted_cons _ hkeys]
    have hderived := dotted_not_mem_derivedNames (dotted path) hkeys
    have hall : Plain (path ++ keys) := fun word hword =>
      (List.mem_append.mp hword).elim (hpath word) (hplain word)
    rw [hlonger] at hderived ⊢
    rw [resolve?_keys hobject hl, get?_branch today format hd hk (by simp [hkeys]) hall hderived,
      descend?_append, ← hfact, hobject]
    rfl

/-- A member where the empty application has a leaf, one with the name of a derived fact, and a key
with a dot that stands in an array only. -/
def newMembers : Value := .object
  [("permitData", .object [("companyName", .object [("legal name", .string "X")]),
      ("rows", .array [.object [("a.b", .null)]])]),
    ("validationDate", .object [("year", .int 2024)])]

theorem facts_are_subtrees_of_new_members :
    newMembers.Canonical ∧ newMembers.hasPlainKeys = true ∧
      "validationDate.year" ∈ (ofDocument newMembers default .standard).keys ∧
      (ofDocument newMembers default .standard).get? "permitData.companyName.legal name" =
        some (.string "X") ∧
      (ofDocument newMembers default .standard).resolve? "permitData"
        (some "$.companyName.legal name") = some (.string "X") := by
  have hd : newMembers.Canonical := by decide
  have hk : newMembers.hasPlainKeys = true := by decide
  obtain ⟨hkeys, -, hvalue, hselect⟩ := facts_are_subtrees default .standard hd hk
  have hyear := (hkeys _).mpr (Or.inr ⟨["validationDate", "year"], _, ⟨by decide, rfl⟩, rfl⟩)
  have hlegal := hvalue ["permitData", "companyName", "legal name"] (.string "X")
    ⟨by decide, rfl⟩ (by decide)
  have hdata := hvalue ["permitData"] _ ⟨by decide, rfl⟩ (by decide)
  have hresolve := hselect _ _ ["companyName", "legal name"] hdata (by decide)
    (by constructor <;> simp [Text.isBlank])
  have hwrite : Path.write (["companyName", "legal name"].map .key) =
    "$.companyName.legal name" := by decide
  have hname : dotted (dotted ["permitData"] :: ["companyName", "legal name"]) =
    dotted ["permitData", "companyName", "legal name"] := by decide
  rw [hwrite, hname, hlegal] at hresolve
  exact ⟨hd, hk, hyear, hlegal, hresolve⟩

end Facts
end PermitPolicy
