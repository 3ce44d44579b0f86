import PermitPolicy.Json.Value

/-! Names of words with dots between them, and the paths that a name can stand for.  A key
may hold dots itself, so a name of several words is the name of several paths. -/

namespace PermitPolicy.DottedName
open Json
set_option autoImplicit false

/-- The words of a path with dots between them. -/
def dotted : List String → String
  | [] => ""
  | [word] => word
  | word :: words => word ++ "." ++ dotted words

def Plain (words : List String) : Prop := ∀ word ∈ words, word ≠ "" ∧ '.' ∉ word.toList

instance (words : List String) : Decidable (Plain words) :=
  inferInstanceAs (Decidable (∀ word ∈ words, word ≠ "" ∧ '.' ∉ word.toList))

def joinHead (word : String) : List String → List String
  | [] => []
  | key :: keys => (word ++ "." ++ key) :: keys

/-- The paths of fewer keys with the name of the words, those of longer first keys first. -/
def coarser : List String → List (List String)
  | [] => []
  | [_] => []
  | word :: next :: words =>
    (coarser (next :: words) ++ [next :: words]).map (joinHead word) ++
      (coarser (next :: words)).map (word :: ·)

def groupings (words : List String) : List (List String) := coarser words ++ [words]

/-- The first keys of such paths, from the longest to the shortest, with the words that the
rest of the path has to name. -/
def heads : List String → List (String × List String)
  | [] => []
  | word :: words => (heads words).map (fun h => (word ++ "." ++ h.1, h.2)) ++ [(word, words)]

theorem dotted_cons (word : String) {words : List String} (h : words ≠ []) :
    dotted (word :: words) = word ++ "." ++ dotted words := by
  cases words with
  | nil => exact absurd rfl h
  | cons next words => rfl

theorem Plain.head {word : String} {words : List String} (h : Plain (word :: words)) :
    word ≠ "" ∧ '.' ∉ word.toList := h word List.mem_cons_self

theorem Plain.tail {word : String} {words : List String} (h : Plain (word :: words)) :
    Plain words := fun w hw => h w (List.mem_cons_of_mem _ hw)

theorem dotted_ne_empty {words : List String} (hw : words ≠ []) (h : Plain words) :
    dotted words ≠ "" := by
  cases words with
  | nil => exact absurd rfl hw
  | cons word words =>
    cases words with
    | nil => exact h.head.1
    | cons next words => simp [dotted_cons]

theorem first_dot {w k d t : List Char} (hw : '.' ∉ w) (h : w ++ '.' :: d = k ++ '.' :: t) :
    (k = w ∧ d = t) ∨ ∃ j, k = w ++ '.' :: j ∧ d = j ++ '.' :: t := by
  rcases List.append_eq_append_iff.mp h with ⟨a, hk, ha⟩ | ⟨a, hwa, ha⟩
  · cases a with
    | nil => exact Or.inl ⟨by simpa using hk, (List.cons.inj ha).2⟩
    | cons c j =>
      obtain ⟨rfl, hd⟩ := List.cons.inj ha
      exact Or.inr ⟨j, hk, hd⟩
  · cases a with
    | nil => exact Or.inl ⟨by simpa using hwa.symm, (List.cons.inj ha).2.symm⟩
    | cons c j =>
      obtain ⟨rfl, _⟩ := List.cons.inj ha
      exact absurd (by simp [hwa]) hw

theorem first_word {word key name rest : String} (hw : '.' ∉ word.toList)
    (h : word ++ "." ++ name = key ++ "." ++ rest) :
    (key = word ∧ name = rest) ∨ ∃ j, key = word ++ "." ++ j ∧ name = j ++ "." ++ rest := by
  have hl := congrArg String.toList h
  have hdot : ".".toList = ['.'] := rfl
  simp only [String.toList_append, hdot, List.append_assoc, List.singleton_append] at hl
  rcases first_dot hw hl with ⟨hk, hn⟩ | ⟨j, hk, hn⟩
  · exact Or.inl ⟨String.toList_inj.mp hk, String.toList_inj.mp hn⟩
  · refine Or.inr ⟨String.ofList j, ?_, ?_⟩
    · apply String.toList_inj.mp
      simp [hk, hdot]
    · apply String.toList_inj.mp
      simp [hn, hdot]

/-- A key that is a name, or all of it up to some dot, is a first key of a path of it. -/
theorem mem_heads {words : List String} (hw : words ≠ []) (h : Plain words) {key : String}
    (hk : dotted words = key ∨ ∃ rest, dotted words = key ++ "." ++ rest) :
    key ∈ (heads words).map Prod.fst := by
  induction words generalizing key with
  | nil => exact absurd rfl hw
  | cons word words ih =>
    rw [heads, List.map_append, List.map_map]
    apply List.mem_append.mpr
    by_cases hnil : words = []
    · subst hnil
      right
      rcases hk with rfl | ⟨rest, hrest⟩
      · exact List.mem_singleton.mpr rfl
      · have hdot : '.' ∈ word.toList := by
          have hl : word.toList = _ := congrArg String.toList hrest
          simp [hl]
        exact absurd hdot h.head.2
    · have ih' : ∀ k, (dotted words = k ∨ ∃ rest, dotted words = k ++ "." ++ rest) →
          ∃ g ∈ heads words, g.1 = k := fun k hk => List.mem_map.mp (ih hnil h.tail hk)
      rw [dotted_cons word hnil] at hk
      rcases hk with rfl | ⟨rest, hrest⟩
      · obtain ⟨g, hg, hge⟩ := ih' _ (Or.inl rfl)
        exact Or.inl (List.mem_map.mpr ⟨g, hg, by simp [hge]⟩)
      · rcases first_word h.head.2 hrest with ⟨rfl, _⟩ | ⟨j, rfl, hj⟩
        · exact Or.inr (by simp)
        · obtain ⟨g, hg, hge⟩ := ih' _ (Or.inr ⟨rest, hj⟩)
          exact Or.inl (List.mem_map.mpr ⟨g, hg, by simp [hge]⟩)

theorem heads_eq {words : List String} {h : String × List String} (hh : h ∈ heads words) :
    ∃ front, front ≠ [] ∧ words = front ++ h.2 ∧ h.1 = dotted front := by
  induction words generalizing h with
  | nil => cases hh
  | cons word words ih =>
    rcases List.mem_append.mp hh with hh | hh
    · obtain ⟨g, hg, rfl⟩ := List.mem_map.mp hh
      obtain ⟨front, hf, hw, hk⟩ := ih hg
      exact ⟨word :: front, by simp, by simp [hw], by simp [hk, dotted_cons word hf]⟩
    · obtain rfl := List.mem_singleton.mp hh
      exact ⟨[word], by simp, rfl, rfl⟩

theorem dotted_append {front words : List String} (hf : front ≠ []) (hw : words ≠ []) :
    dotted (front ++ words) = dotted front ++ "." ++ dotted words := by
  induction front with
  | nil => exact absurd rfl hf
  | cons word front ih =>
    cases front with
    | nil => exact dotted_cons word hw
    | cons next front =>
      have hne : next :: front ≠ [] := by simp
      rw [List.cons_append, dotted_cons word (by simp), ih hne, dotted_cons word hne]
      simp [String.append_assoc]

theorem lt_append {a : String} (b : String) (h : b ≠ "") : a < a ++ b := by
  apply String.lt_iff.mpr
  rw [String.toList_append]
  have hb : [] < b.toList := by
    cases hl : b.toList with
    | nil => exact absurd (String.toList_inj.mp hl) h
    | cons c cs => exact List.nil_lt_cons c cs
  have h : a.toList ++ [] < a.toList ++ b.toList := List.append_left_lt hb
  rwa [List.append_nil] at h

theorem append_lt {a b : String} (word : String) (h : a < b) : word ++ a < word ++ b := by
  apply String.lt_iff.mpr
  rw [String.toList_append, String.toList_append]
  exact List.append_left_lt (String.lt_iff.mp h)

theorem heads_descend (words : List String) :
    ((heads words).map Prod.fst).Pairwise fun j k => k < j := by
  induction words with
  | nil => exact .nil
  | cons word words ih =>
    rw [heads, List.map_append, List.map_map, List.pairwise_append]
    refine ⟨?_, by simp, ?_⟩
    · rw [List.pairwise_map] at ih ⊢
      exact ih.imp fun h => append_lt _ h
    · intro j hj k hk
      obtain ⟨g, _, rfl⟩ := List.mem_map.mp hj
      obtain rfl := List.mem_singleton.mp hk
      rw [Function.comp_apply, String.append_assoc]
      exact lt_append _ (by simp)

@[simp] theorem groupings_nil : groupings [] = [[]] := rfl

theorem groupings_cons (word : String) {words : List String} (h : words ≠ []) :
    groupings (word :: words) =
      (groupings words).map (joinHead word) ++ (groupings words).map (word :: ·) := by
  cases words with
  | nil => exact absurd rfl h
  | cons next words => simp [groupings, coarser]

theorem ne_nil_of_mem_groupings {words path : List String} (hw : words ≠ [])
    (h : path ∈ groupings words) : path ≠ [] := by
  induction words generalizing path with
  | nil => exact absurd rfl hw
  | cons word words ih =>
    by_cases hnil : words = []
    · subst hnil
      obtain rfl := List.mem_singleton.mp h
      exact List.cons_ne_nil _ _
    · rw [groupings_cons word hnil] at h
      rcases List.mem_append.mp h with h | h
      · obtain ⟨q, hq, rfl⟩ := List.mem_map.mp h
        cases q with
        | nil => exact absurd rfl (ih hnil hq)
        | cons key keys => exact List.cons_ne_nil _ _
      · obtain ⟨q, _, rfl⟩ := List.mem_map.mp h
        exact List.cons_ne_nil _ _

theorem dotted_joinHead (word : String) {path : List String} (h : path ≠ []) :
    dotted (joinHead word path) = word ++ "." ++ dotted path := by
  cases path with
  | nil => exact absurd rfl h
  | cons key keys =>
    by_cases hnil : keys = []
    · subst hnil
      rfl
    · rw [joinHead, dotted_cons _ hnil, dotted_cons _ hnil]
      simp [String.append_assoc]

theorem dotted_of_mem_groupings {words path : List String} (hw : words ≠ [])
    (h : path ∈ groupings words) : dotted path = dotted words := by
  induction words generalizing path with
  | nil => exact absurd rfl hw
  | cons word words ih =>
    by_cases hnil : words = []
    · subst hnil
      obtain rfl := List.mem_singleton.mp h
      rfl
    · rw [groupings_cons word hnil] at h
      rw [dotted_cons word hnil]
      rcases List.mem_append.mp h with h | h
      · obtain ⟨q, hq, rfl⟩ := List.mem_map.mp h
        rw [dotted_joinHead word (ne_nil_of_mem_groupings hnil hq), ih hnil hq]
      · obtain ⟨q, hq, rfl⟩ := List.mem_map.mp h
        rw [dotted_cons word (ne_nil_of_mem_groupings hnil hq), ih hnil hq]

theorem mem_groupings_of_dotted {words path : List String} (hw : words ≠ []) (hp : Plain words)
    (hpath : path ≠ []) (h : dotted path = dotted words) : path ∈ groupings words := by
  induction words generalizing path with
  | nil => exact absurd rfl hw
  | cons word words ih =>
    obtain ⟨key, keys, rfl⟩ := List.exists_cons_of_ne_nil hpath
    by_cases hnil : words = []
    · subst hnil
      by_cases hkeys : keys = []
      · subst hkeys
        exact List.mem_singleton.mpr (congrArg (fun k => [k]) h)
      · rw [dotted_cons key hkeys] at h
        have hl : _ = word.toList := congrArg String.toList h
        exact absurd (by simp [← hl]) hp.head.2
    · rw [groupings_cons word hnil]
      rw [dotted_cons word hnil] at h
      apply List.mem_append.mpr
      by_cases hkeys : keys = []
      · subst hkeys
        left
        have hself : [dotted words] ∈ groupings words := ih hnil hp.tail (by simp) rfl
        exact List.mem_map.mpr ⟨_, hself, congrArg (fun k => [k]) h.symm⟩
      · rw [dotted_cons key hkeys] at h
        rcases first_word hp.head.2 h.symm with ⟨rfl, hrest⟩ | ⟨j, rfl, hrest⟩
        · right
          exact List.mem_map.mpr ⟨keys, ih hnil hp.tail hkeys hrest.symm, rfl⟩
        · left
          have hj : j :: keys ∈ groupings words :=
            ih hnil hp.tail (by simp) ((dotted_cons j hkeys).trans hrest.symm)
          exact List.mem_map.mpr ⟨_, hj, rfl⟩

/-- The groupings of plain words are the paths of the same name. -/
theorem mem_groupings_iff {words path : List String} (hw : words ≠ []) (hp : Plain words) :
    path ∈ groupings words ↔ dotted path = dotted words := by
  constructor
  · exact dotted_of_mem_groupings hw
  · intro h
    apply mem_groupings_of_dotted hw hp _ h
    rintro rfl
    exact dotted_ne_empty hw hp h.symm

/-- The value that a path leads to, given the values of the first keys. -/
def descendFrom (g : String → Option Value) : List String → Option Value
  | [] => none
  | key :: keys => (g key).bind (Value.descend? keys)

/-- Trying the paths of a name in turn is trying their first keys in turn. -/
theorem findSome?_groupings {words : List String} (hw : words ≠ [])
    (g : String → Option Value) :
    (groupings words).findSome? (descendFrom g) =
      (heads words).findSome? fun h =>
        (g h.1).bind fun v => (groupings h.2).findSome? fun q => v.descend? q := by
  induction words generalizing g with
  | nil => exact absurd rfl hw
  | cons word words ih =>
    by_cases hnil : words = []
    · subst hnil
      cases h : g word <;> simp [groupings, coarser, heads, descendFrom, h, Value.descend?]
    · have hjoin : descendFrom g ∘ joinHead word =
          descendFrom fun k => g (word ++ "." ++ k) := by
        funext q
        cases q <;> rfl
      have hcons : (groupings words).findSome? (descendFrom g ∘ (word :: ·)) =
          (g word).bind fun v => (groupings words).findSome? fun q => v.descend? q := by
        cases h : g word with
        | none => simp [Function.comp_def, descendFrom, h]
        | some v => simp [Function.comp_def, descendFrom, h]
      rw [groupings_cons word hnil, List.findSome?_append, List.findSome?_map, List.findSome?_map,
        hjoin, hcons, ih hnil, heads, List.findSome?_append, List.findSome?_map]
      congr 1
      rw [List.findSome?_cons, List.findSome?_nil]
      split <;> simp_all

theorem findSome?_congr {α β : Type} {l : List α} {f g : α → Option β}
    (h : ∀ a ∈ l, f a = g a) : l.findSome? f = l.findSome? g := by
  induction l with
  | nil => rfl
  | cons a l ih =>
    rw [List.findSome?_cons, List.findSome?_cons, h a List.mem_cons_self,
      ih fun b hb => h b (List.mem_cons_of_mem _ hb)]

theorem findSome?_descend? {words : List String} (hw : words ≠ []) (v : Value) :
    ((groupings words).findSome? fun q => v.descend? q) =
      (heads words).findSome? fun h =>
        (v.get? h.1).bind fun w => (groupings h.2).findSome? fun q => w.descend? q := by
  rw [← findSome?_groupings hw fun key => v.get? key]
  apply findSome?_congr
  intro q hq
  cases q with
  | nil => exact absurd rfl (ne_nil_of_mem_groupings hw hq)
  | cons key keys => rfl

end PermitPolicy.DottedName
