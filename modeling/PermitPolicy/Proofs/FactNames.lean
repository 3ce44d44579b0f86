import PermitPolicy.Proofs.DottedName
import PermitPolicy.Proofs.Overlay

/-! The facts of a document by name.  Flattening writes a fact for each path, and the last one
of a name stays: of all paths with the name of some words it is the one with the longest first
key, then the longest second key, and so on. -/

namespace PermitPolicy
open Json DottedName
set_option autoImplicit false

namespace Json.Value

theorem memberName_of_ne {parent : String} (h : parent ≠ "") (key : String) :
    memberName parent key = parent ++ "." ++ key := by
  simp [memberName, String.isEmpty_iff, h]

@[simp] theorem memberName_empty (key : String) : memberName "" key = key := rfl

theorem memberName_ne_empty {parent key : String} (h : parent ≠ "" ∨ key ≠ "") :
    memberName parent key ≠ "" := by
  by_cases hp : parent = ""
  · subst hp
    exact h.resolve_left fun hn => hn rfl
  · rw [memberName_of_ne hp]
    simp

theorem memberName_inj {parent j k : String} (h : memberName parent j = memberName parent k) :
    j = k := by
  by_cases hp : parent = ""
  · subst hp
    exact h
  · rw [memberName_of_ne hp, memberName_of_ne hp] at h
    have hl := congrArg String.toList h
    simp only [String.toList_append] at hl
    exact String.toList_inj.mp (List.append_cancel_left hl)

theorem memberName_memberName {parent key : String} (h : parent ≠ "" ∨ key ≠ "")
    (name : String) :
    memberName (memberName parent key) name = memberName parent (key ++ "." ++ name) := by
  rw [memberName_of_ne (memberName_ne_empty h)]
  by_cases hp : parent = ""
  · subst hp
    rfl
  · simp [memberName_of_ne hp, String.append_assoc]

mutual
theorem name_flatten {parent : String} (h : parent ≠ "") :
    (v : Value) → ∀ e ∈ v.flatten parent, ∃ name, e.1 = memberName parent name
  | .object ms => by
    rw [flatten]
    exact name_flattenMembers h ms
  | .null | .bool _ | .number _ | .string _ | .array _ => by simp [flatten]

theorem name_flattenMembers {parent : String} (h : parent ≠ "") :
    (ms : List (String × Value)) → ∀ e ∈ flattenMembers parent ms,
      ∃ name, e.1 = memberName parent name
  | [] => by simp [flattenMembers]
  | (key, v) :: ms => by
    intro e he
    rw [flattenMembers] at he
    rcases List.mem_append.mp he with he | he
    · obtain ⟨name, hname⟩ := name_flatten (memberName_ne_empty (Or.inl h)) v e he
      exact ⟨_, hname.trans (memberName_memberName (Or.inl h) name)⟩
    · rcases List.mem_cons.mp he with rfl | he
      · exact ⟨key, rfl⟩
      · exact name_flattenMembers h ms e he
end

/-- The last value of a name among the facts under a parent. -/
def lastNamed? (parent name : String) (v : Value) : Option Value :=
  Entries.get? name (v.flatten parent).reverse

/-- The last value of a name that a member accounts for: its own, or one within it. -/
def memberNamed? (parent name key : String) (v : Value) : Option Value :=
  if memberName parent key = name then some v else lastNamed? (memberName parent key) name v

theorem lastNamed?_of_not_object {v : Value} (h : v.isObject = false) (parent name : String) :
    lastNamed? parent name v = none := by
  cases v with
  | object ms => cases h
  | _ => rfl

theorem lastNamed?_object (parent name : String) (ms : List (String × Value)) :
    lastNamed? parent name (.object ms) =
      ms.reverse.findSome? fun m => memberNamed? parent name m.1 m.2 := by
  unfold lastNamed?
  rw [flatten]
  induction ms with
  | nil => rfl
  | cons m ms ih =>
    obtain ⟨key, v⟩ := m
    rw [flattenMembers, List.reverse_append, List.reverse_cons, List.reverse_cons,
      Entries.get?_append, Entries.get?_append, List.findSome?_append, ih, List.findSome?_cons,
      Option.or_assoc]
    congr 1
    simp only [Entries.get?_cons, Entries.get?_nil, memberNamed?, lastNamed?]
    split
    · rfl
    · cases Entries.get? name (v.flatten (memberName parent key)).reverse <;> rfl

/-- A member accounts for the name of some words only if its key is a first key of theirs. -/
theorem mem_heads_of_memberNamed? {parent key : String} (hk : parent ≠ "" ∨ key ≠ "")
    {words : List String} (hw : words ≠ []) (hp : Plain words) {v : Value}
    (h : memberNamed? parent (memberName parent (dotted words)) key v ≠ none) :
    key ∈ (heads words).map Prod.fst := by
  apply mem_heads hw hp
  unfold memberNamed? at h
  split at h
  · rename_i hname
    exact Or.inl (memberName_inj hname).symm
  · obtain ⟨w, hfound⟩ := Option.ne_none_iff_exists'.mp h
    have hmem := List.mem_reverse.mp (Entries.mem_of_get? hfound)
    obtain ⟨name, hname⟩ := name_flatten (memberName_ne_empty hk) v _ hmem
    rw [memberName_memberName hk] at hname
    exact Or.inr ⟨name, memberName_inj hname⟩

theorem plain_of_mem_heads {words : List String} (hp : Plain words)
    {h : String × List String} (hh : h ∈ heads words) :
    h.1 ≠ "" ∧ Plain h.2 ∧ h.2.length < words.length ∧
      dotted words = if h.2 = [] then h.1 else h.1 ++ "." ++ dotted h.2 := by
  obtain ⟨front, hf, rfl, hk⟩ := heads_eq hh
  have hfront : Plain front := fun w hmem => hp w (List.mem_append_left _ hmem)
  have hback : Plain h.2 := fun w hmem => hp w (List.mem_append_right _ hmem)
  refine ⟨hk ▸ dotted_ne_empty hf hfront, hback, ?_, ?_⟩
  · have := List.length_pos_iff.mpr hf
    rw [List.length_append]
    omega
  · by_cases hnil : h.2 = []
    · rw [if_pos hnil, hnil, List.append_nil, hk]
    · rw [if_neg hnil, hk, dotted_append hf hnil]

theorem memberNamed?_heads {parent : String} {words : List String} (hp : Plain words)
    {h : String × List String} (hh : h ∈ heads words) {v : Value}
    (hrest : h.2 ≠ [] → lastNamed? (memberName parent h.1)
      (memberName (memberName parent h.1) (dotted h.2)) v =
        (groupings h.2).findSome? fun q => v.descend? q) :
    memberNamed? parent (memberName parent (dotted words)) h.1 v =
      (groupings h.2).findSome? fun q => v.descend? q := by
  obtain ⟨hkey, _, _, hname⟩ := plain_of_mem_heads hp hh
  by_cases hnil : h.2 = []
  · rw [if_pos hnil] at hname
    simp [memberNamed?, hname, hnil, descend?]
  · rw [if_neg hnil] at hname
    have hne : memberName parent h.1 ≠ memberName parent (dotted words) := by
      intro heq
      have hself := memberName_inj heq
      rw [hname, String.append_assoc] at hself
      exact absurd hself.symm (by simp)
    rw [memberNamed?, if_neg hne, ← hrest hnil, memberName_memberName (Or.inr hkey), hname]

theorem findSome?_memberNamed? {parent : String} {words : List String} (hw : words ≠ [])
    (hp : Plain words) {ms : List (String × Value)} (hv : Canonical (.object ms))
    (hrest : ∀ h ∈ heads words, h.2 ≠ [] → ∀ v : Value, v.Canonical →
      lastNamed? (memberName parent h.1) (memberName (memberName parent h.1) (dotted h.2)) v =
        (groupings h.2).findSome? fun q => v.descend? q) :
    (((heads words).map Prod.fst).findSome? fun k =>
        (Entries.get? k ms).bind (memberNamed? parent (memberName parent (dotted words)) k)) =
      (groupings words).findSome? fun q => (Value.object ms).descend? q := by
  rw [findSome?_descend? hw, List.findSome?_map]
  apply findSome?_congr
  intro h hh
  cases hget : Entries.get? h.1 ms with
  | none => simp [hget]
  | some v =>
    have hmember : memberNamed? parent (memberName parent (dotted words)) h.1 v = _ :=
      memberNamed?_heads hp hh fun hne => hrest h hh hne v (hv.get? hget)
    simpa [hget] using hmember

/-- Under a parent, the value of a name of words is that of the first path of the name that
leads anywhere. -/
theorem lastNamed?_of_parent {parent : String} (hparent : parent ≠ "") {words : List String}
    (hw : words ≠ []) (hp : Plain words) {v : Value} (hv : v.Canonical) :
    lastNamed? parent (memberName parent (dotted words)) v =
      (groupings words).findSome? fun q => v.descend? q := by
  induction hn : words.length using Nat.strongRecOn generalizing words parent v with
  | ind n ih =>
    subst hn
    cases v with
    | object ms =>
      rw [lastNamed?_object, Entries.findSome?_reverse hv.sorted (heads_descend words)
        fun m _ => mem_heads_of_memberNamed? (Or.inl hparent) hw hp]
      apply findSome?_memberNamed? hw hp hv
      intro h hh hne w hw
      obtain ⟨_, hplain, hshort, _⟩ := plain_of_mem_heads hp hh
      exact ih _ hshort (memberName_ne_empty (Or.inl hparent)) hne hplain hw rfl
    | _ =>
      rw [lastNamed?_of_not_object rfl, findSome?_descend? hw]
      symm
      exact List.findSome?_eq_none_iff.mpr fun h _ => rfl

/-- In a whole document the empty key adds nothing to a name, so the paths of a name may also
begin with empty keys; those come last. -/
theorem lastNamed?_root {words : List String} (hw : words ≠ []) (hp : Plain words) {v : Value}
    (hv : v.Canonical) :
    lastNamed? "" (dotted words) v =
      ((groupings words).findSome? fun q => v.descend? q).or
        ((v.get? "").bind (lastNamed? "" (dotted words))) := by
  cases v with
  | object ms =>
    have hkeys : ((heads words).map Prod.fst ++ [""]).Pairwise fun j k => k < j := by
      rw [List.pairwise_append]
      refine ⟨heads_descend words, by simp, ?_⟩
      intro j hj k hk
      obtain ⟨h, hh, rfl⟩ := List.mem_map.mp hj
      obtain rfl := List.mem_singleton.mp hk
      have hlt : "" < "" ++ h.1 := lt_append h.1 (plain_of_mem_heads hp hh).1
      rwa [String.empty_append] at hlt
    have hmem : ∀ m ∈ ms, memberNamed? "" (dotted words) m.1 m.2 ≠ none →
        m.1 ∈ (heads words).map Prod.fst ++ [""] := by
      intro m _ hm
      by_cases hkey : m.1 = ""
      · exact List.mem_append_right _ (List.mem_singleton.mpr hkey)
      · exact List.mem_append_left _ (mem_heads_of_memberNamed? (Or.inr hkey) hw hp hm)
    have hblank : memberNamed? "" (dotted words) "" = lastNamed? "" (dotted words) := by
      funext w
      exact if_neg fun h => dotted_ne_empty hw hp h.symm
    have hnamed : (((heads words).map Prod.fst).findSome? fun k => (Entries.get? k ms).bind
        (memberNamed? "" (memberName "" (dotted words)) k)) = _ :=
      findSome?_memberNamed? hw hp hv fun h hh hne w hw =>
        lastNamed?_of_parent (plain_of_mem_heads hp hh).1 hne (plain_of_mem_heads hp hh).2.1 hw
    rw [memberName_empty] at hnamed
    rw [lastNamed?_object, Entries.findSome?_reverse hv.sorted hkeys hmem, List.findSome?_append,
      hnamed, List.findSome?_singleton, hblank, get?_object]
  | _ =>
    rw [lastNamed?_of_not_object rfl, findSome?_descend? hw]
    symm
    rw [Option.or_eq_none_iff]
    exact ⟨List.findSome?_eq_none_iff.mpr fun h _ => rfl, rfl⟩

end Json.Value

def Application.fieldPaths : List (List String) :=
  Application.record.fields.map (fun key => [key]) ++
    PermitData.record.fields.map (fun key => ["permitData", key]) ++
    ContactDetails.record.fields.map (fun key => ["permitData", "contactDetails", key]) ++
    VehicleDetails.record.fields.map (fun key => ["permitData", "vehicleDetails", key]) ++
    MailingAddress.record.fields.map (fun key => ["permitData", "mailingAddress", key])

namespace Facts
open Value Calendar

theorem emptyApplication_canonical : emptyApplication.Canonical := by decide

theorem completed_canonical {d : Value} (hd : d.Canonical) : (completed d).Canonical :=
  canonical_overlay d emptyApplication_canonical hd

def derivedNames : List String := [validationDate, daysInPermitYear, expiryDate]

theorem plain_of_mem_fieldPaths : ∀ p ∈ Application.fieldPaths,
    p ≠ [] ∧ Plain p ∧ dotted p ∉ derivedNames := by decide

theorem descend?_emptyApplication : ∀ p ∈ Application.fieldPaths,
    (emptyApplication.descend? p).isSome ∧
      ∀ q ∈ coarser p, (emptyApplication.descend? q).isNone := by decide

theorem get?_ofDocument {name : String} (h : name ∉ derivedNames) (d : Value) (today : Date)
    (format : DateFormat) :
    (ofDocument d today format).get? name = lastNamed? "" name (completed d) := by
  simp only [derivedNames, List.mem_cons, List.not_mem_nil, or_false, not_or] at h
  obtain ⟨hv, hy, he⟩ := h
  simp only [ofDocument, Table.get?_insert, Ne.symm hv, Ne.symm hy, Ne.symm he, if_false,
    Table.get?_ofList]
  rfl

theorem isSome_descend?_completed {d : Value} (hd : d.Canonical) {p : List String}
    (hp : p ∈ Application.fieldPaths) : ((completed d).descend? p).isSome :=
  isSome_descend?_overlay hd (descend?_emptyApplication p hp).1

/-- A member of the document under a coarser path of a field's name hides the field. -/
theorem get?_fieldPath {d : Value} (hd : d.Canonical) {p : List String}
    (hp : p ∈ Application.fieldPaths) (today : Date) (format : DateFormat) :
    (ofDocument d today format).get? (dotted p) =
      ((coarser p).findSome? fun q => d.descend? q).or ((completed d).descend? p) := by
  obtain ⟨hne, hplain, hname⟩ := plain_of_mem_fieldPaths p hp
  have hcoarser : ((coarser p).findSome? fun q => (completed d).descend? q) =
      (coarser p).findSome? fun q => d.descend? q := by
    apply findSome?_congr
    intro q hq
    exact descend?_overlay_of_none hd
      (Option.isNone_iff_eq_none.mp ((descend?_emptyApplication p hp).2 q hq))
  obtain ⟨v, hv⟩ := Option.isSome_iff_exists.mp (isSome_descend?_completed hd hp)
  rw [get?_ofDocument hname, lastNamed?_root hne hplain (completed_canonical hd), groupings,
    List.findSome?_append, List.findSome?_singleton, hcoarser, hv]
  cases (coarser p).findSome? fun q => d.descend? q <;> rfl

theorem mem_groupings_fieldPath {p q : List String} (hp : p ∈ Application.fieldPaths) :
    q ∈ coarser p ∨ q = p ↔ dotted q = dotted p := by
  obtain ⟨hne, hplain, _⟩ := plain_of_mem_fieldPaths p hp
  rw [← mem_groupings_iff hne hplain, groupings, List.mem_append, List.mem_singleton]

theorem findSome?_coarser_eq_none {d : Value} {p : List String}
    (hp : p ∈ Application.fieldPaths)
    (h : ∀ q, q ≠ p → dotted q = dotted p → d.descend? q = none) :
    ((coarser p).findSome? fun q => d.descend? q) = none := by
  apply List.findSome?_eq_none_iff.mpr
  intro q hq
  apply h q
  · rintro rfl
    obtain ⟨hsome, hnone⟩ := descend?_emptyApplication q hp
    exact absurd hsome (by simp [Option.isNone_iff_eq_none.mp (hnone q hq)])
  · exact (mem_groupings_fieldPath hp).mp (Or.inl hq)

/-- Each field of the application is there, and the fact of its name is the field unless the
document has a member under another path of that name; then the fact is that member, and is
the field only if the two are equal.  The facts derived from dates are always those of the
fields. -/
theorem field_facts (d : Value) (hd : d.Canonical) (today : Date) (format : DateFormat) :
    (∀ p ∈ Application.fieldPaths, ∃ field, (completed d).descend? p = some field ∧
      (ofDocument d today format).get? (dotted p) =
        some (((coarser p).findSome? fun q => d.descend? q).getD field) ∧
      ((ofDocument d today format).get? (dotted p) = some field ↔
        ∀ member, ((coarser p).findSome? fun q => d.descend? q) = some member →
          member = field) ∧
      ((∀ q, q ≠ p → dotted q = dotted p → d.descend? q = none) →
        (ofDocument d today format).get? (dotted p) = some field) ∧
      ∀ q, dotted q = dotted p ↔ q ∈ coarser p ∨ q = p) ∧
      (ofDocument d today format).get? daysInPermitYear =
        some (.ofOption .int ((((completed d).descend? ["permitData", "startDate"]).bind
          fun v => v.string?.bind format.read?).bind daysInPermitYear?)) ∧
      (ofDocument d today format).get? expiryDate =
        some (.ofOption (fun day => .string (format.write day))
          ((((completed d).descend? ["permitData", "startDate"]).bind
            fun v => v.string?.bind format.read?).bind fun start =>
              (((completed d).descend? ["permitData", "permitDuration"]).bind
                Value.int64?).bind (expiryDate? start))) := by
  refine ⟨?_, ?_, ?_⟩
  · intro p hp
    obtain ⟨field, hfield⟩ := Option.isSome_iff_exists.mp (isSome_descend?_completed hd hp)
    rw [get?_fieldPath hd hp, hfield]
    refine ⟨field, rfl, ?_, ?_, ?_, fun q => (mem_groupings_fieldPath hp).symm⟩
    · cases (coarser p).findSome? fun q => d.descend? q <;> rfl
    · cases (coarser p).findSome? fun q => d.descend? q <;> simp
    · intro h
      rw [findSome?_coarser_eq_none hp h]
      rfl
  · simp only [ofDocument, Table.get?_insert]
    rfl
  · simp only [ofDocument, Table.get?_insert, if_true]
    rfl

/-- A document with a member `permitData.startDate` beside its permit data. -/
def dottedMember : Value := .object
  [("permitData", .object [("startDate", .string "2024-01-01")]),
    ("permitData.startDate", .string "2030-06-01")]

theorem field_facts_dotted_member :
    dottedMember.Canonical ∧
      ((ofDocument dottedMember default .standard).get? "permitData.startDate" =
          some (.string "2024-01-01") ↔
        ∀ member, ((coarser ["permitData", "startDate"]).findSome?
          fun q => dottedMember.descend? q) = some member → member = .string "2024-01-01") := by
  have hc : dottedMember.Canonical := by decide
  obtain ⟨field, hfield, _, hiff, _⟩ := (field_facts dottedMember hc default .standard).1
    ["permitData", "startDate"] (by decide)
  obtain rfl : Value.string "2024-01-01" = field := Option.some.inj hfield
  exact ⟨hc, hiff⟩

/-- So the rules judge another start date than the one the permit year is counted from. -/
theorem dotted_member_hides_field :
    ¬ (∀ d : Value, d.Canonical → ∀ p ∈ Application.fieldPaths,
        (ofDocument d default .standard).get? (dotted p) = (completed d).descend? p) ∧
      (completed dottedMember).descend? ["permitData", "startDate"] =
        some (.string "2024-01-01") ∧
      (ofDocument dottedMember default .standard).get? "permitData.startDate" =
        some (.string "2030-06-01") := by
  have hc : dottedMember.Canonical := by decide
  have hp : ["permitData", "startDate"] ∈ Application.fieldPaths := by decide
  have hfact : (ofDocument dottedMember default .standard).get? "permitData.startDate" =
      some (.string "2030-06-01") := get?_fieldPath hc hp default .standard
  have hfield : (completed dottedMember).descend? ["permitData", "startDate"] =
      some (.string "2024-01-01") := rfl
  refine ⟨?_, hfield, hfact⟩
  intro h
  have heq : some (Value.string "2030-06-01") = some (.string "2024-01-01") :=
    hfact.symm.trans ((h dottedMember hc _ hp).trans hfield)
  exact absurd heq (by decide)

end Facts
end PermitPolicy
