import PermitPolicy.Proofs.RuleDecision

/-! The walk that gathers the comparisons of a condition.  A round takes the last of the waiting
conditions and puts its children in its place, the first one last.  What has been found and the
leaves of what waits stay the same together, and what waits loses one node, so the walk ends with
each leaf once, in the order of the places where the leaves stand. -/

namespace PermitPolicy.Condition
set_option autoImplicit false

def children : Condition → List Condition
  | .all cs | .any cs => cs
  | .not child => [child]
  | .comparison _ => []

def own : Condition → List Comparison
  | .comparison leaf => [leaf]
  | .all _ | .any _ | .not _ => []

theorem leaves_eq (c : Condition) : c.leaves = c.own ++ leavesOf c.children := by
  cases c <;> simp [leaves, own, children, leavesOf]

theorem size_eq (c : Condition) : c.size = sizeOfAll c.children + 1 := by
  cases c <;> simp [size, children, sizeOfAll]

theorem sizeOfAll_reverse (cs : List Condition) : sizeOfAll cs.reverse = sizeOfAll cs := by
  induction cs with
  | nil => rfl
  | cons c cs ih =>
    rw [List.reverse_cons, sizeOfAll_append, ih, sizeOfAll, sizeOfAll, sizeOfAll]
    omega

/-- The comparisons found and the conditions that wait, of which the last is the next. -/
structure Walk where
  found : List Comparison := []
  waiting : List Condition

namespace Walk

/-- One round; at the end no condition waits. -/
def step (w : Walk) : Option Walk :=
  w.waiting.getLast?.map fun next =>
    let others := w.waiting.dropLast
    match next with
    | .all cs | .any cs => ⟨w.found, others ++ cs.reverse⟩
    | .not child => ⟨w.found, others ++ [child]⟩
    | .comparison leaf => ⟨w.found ++ [leaf], others⟩

/-- The walk ends after so many rounds, with these comparisons found. -/
inductive Ends : Walk → Nat → List Comparison → Prop where
  | done {w : Walk} (h : w.step = none) : Ends w 0 w.found
  | more {w next : Walk} {rounds : Nat} {found : List Comparison} (h : w.step = some next)
      (hn : Ends next rounds found) : Ends w (rounds + 1) found

/-- What the walk has found and is going to find. -/
def harvest (w : Walk) : List Comparison := w.found ++ leavesOf w.waiting.reverse

theorem step_eq_none_iff {w : Walk} : w.step = none ↔ w.waiting = [] := by
  rw [step, Option.map_eq_none_iff, List.getLast?_eq_none_iff]

theorem step_concat (found : List Comparison) (others : List Condition) (c : Condition) :
    step ⟨found, others ++ [c]⟩ = some ⟨found ++ c.own, others ++ c.children.reverse⟩ := by
  unfold step
  rw [List.getLast?_concat, List.dropLast_concat]
  cases c <;> simp [own, children]

theorem harvest_step {w next : Walk} (h : w.step = some next) :
    next.harvest = w.harvest ∧ sizeOfAll next.waiting + 1 = sizeOfAll w.waiting := by
  obtain ⟨found, waiting⟩ := w
  rcases List.eq_nil_or_concat waiting with rfl | ⟨others, c, rfl⟩
  · cases h
  rw [List.concat_eq_append] at h ⊢
  rw [step_concat] at h
  obtain rfl := Option.some.inj h
  constructor
  · simp only [harvest, List.reverse_append, List.reverse_reverse, leavesOf_append,
      List.reverse_cons, List.reverse_nil, List.nil_append, List.singleton_append, leavesOf,
      leaves_eq c, List.append_assoc]
  · simp only [sizeOfAll_append, sizeOfAll_reverse, sizeOfAll, size_eq c]
    omega

theorem found_eq_harvest {w : Walk} (h : w.step = none) :
    sizeOfAll w.waiting = 0 ∧ w.found = w.harvest := by
  rw [harvest, step_eq_none_iff.mp h]
  exact ⟨rfl, (List.append_nil _).symm⟩

theorem Ends.eq {w : Walk} {rounds : Nat} {found : List Comparison} (h : Ends w rounds found) :
    rounds = sizeOfAll w.waiting ∧ found = w.harvest := by
  induction h with
  | done h =>
    obtain ⟨hsize, hfound⟩ := found_eq_harvest h
    exact ⟨hsize.symm, hfound⟩
  | more h _ ih =>
    obtain ⟨hharvest, hsize⟩ := harvest_step h
    exact ⟨by omega, ih.2.trans hharvest⟩

/-- The walk ends, since the nodes that wait get fewer. -/
theorem ends (w : Walk) : Ends w (sizeOfAll w.waiting) w.harvest := by
  generalize hn : sizeOfAll w.waiting = n
  induction n generalizing w with
  | zero =>
    cases h : w.step with
    | none =>
      rw [← (found_eq_harvest h).2]
      exact Ends.done h
    | some next =>
      have hsize := (harvest_step h).2
      omega
  | succ n ih =>
    cases h : w.step with
    | none =>
      have hsize := (found_eq_harvest h).1
      omega
    | some next =>
      obtain ⟨hharvest, hsize⟩ := harvest_step h
      rw [← hharvest]
      exact Ends.more h (ih next (by omega))

theorem ends_iff (w : Walk) (rounds : Nat) (found : List Comparison) :
    Ends w rounds found ↔ rounds = sizeOfAll w.waiting ∧ found = w.harvest := by
  constructor
  · exact Ends.eq
  · rintro ⟨rfl, rfl⟩
    exact ends w

end Walk

/-- The condition at a place, which tells the child to go to at each level. -/
def at? : List Nat → Condition → Option Condition
  | [], c => some c
  | i :: place, c => c.children[i]?.bind (at? place)

/-- A leaf of a child, by its place in the parent. -/
def underChild (i : Nat) (e : List Nat × Comparison) : List Nat × Comparison := (i :: e.1, e.2)

mutual
/-- The leaves with their places. -/
def placed : Condition → List (List Nat × Comparison)
  | .all cs => placedFrom 0 cs
  | .any cs => placedFrom 0 cs
  | .not child => (placed child).map (underChild 0)
  | .comparison leaf => [([], leaf)]

def placedFrom (i : Nat) : List Condition → List (List Nat × Comparison)
  | [] => []
  | c :: cs => (placed c).map (underChild i) ++ placedFrom (i + 1) cs
end

mutual
theorem map_placed : (c : Condition) → c.placed.map Prod.snd = c.leaves
  | .all cs => map_placedFrom 0 cs
  | .any cs => map_placedFrom 0 cs
  | .not child => by rw [placed, List.map_map, leaves, ← map_placed child]; rfl
  | .comparison _ => rfl

theorem map_placedFrom (i : Nat) : (cs : List Condition) →
    (placedFrom i cs).map Prod.snd = leavesOf cs
  | [] => rfl
  | c :: cs => by
    rw [placedFrom, List.map_append, List.map_map, map_placedFrom (i + 1) cs, leavesOf,
      ← map_placed c]
    rfl
end

theorem mem_map_underChild {i : Nat} {place : List Nat} {leaf : Comparison}
    {es : List (List Nat × Comparison)} :
    (place, leaf) ∈ es.map (underChild i) ↔ ∃ rest, place = i :: rest ∧ (rest, leaf) ∈ es := by
  rw [List.mem_map]
  constructor
  · rintro ⟨⟨rest, _⟩, he, heq⟩
    cases heq
    exact ⟨rest, rfl, he⟩
  · rintro ⟨rest, rfl, he⟩
    exact ⟨_, he, rfl⟩

theorem at?_cons {i : Nat} {place : List Nat} {c leaf : Condition} :
    c.at? (i :: place) = some leaf ↔
      ∃ child, c.children[i]? = some child ∧ child.at? place = some leaf :=
  Option.bind_eq_some_iff

theorem at?_eq_comparison {c : Condition} (hc : c.own = []) (place : List Nat)
    (leaf : Comparison) : c.at? place = some (.comparison leaf) ↔
      ∃ j rest child, place = j :: rest ∧ c.children[j]? = some child ∧
        child.at? rest = some (.comparison leaf) := by
  cases place with
  | nil =>
    constructor
    · intro h
      obtain rfl := Option.some.inj h
      cases hc
    · rintro ⟨_, _, _, h, -⟩
      cases h
  | cons i place =>
    rw [at?_cons]
    constructor
    · rintro ⟨child, hchild, hleaf⟩
      exact ⟨i, place, child, rfl, hchild, hleaf⟩
    · rintro ⟨_, _, child, h, hchild, hleaf⟩
      cases h
      exact ⟨child, hchild, hleaf⟩

mutual
/-- Each leaf is listed with its place. -/
theorem mem_placed : (c : Condition) → ∀ place leaf,
    (place, leaf) ∈ c.placed ↔ c.at? place = some (.comparison leaf)
  | .all cs, place, leaf | .any cs, place, leaf => by
    rw [placed, mem_placedFrom 0 cs, at?_eq_comparison rfl]
    simp only [Nat.zero_add]
    rfl
  | .not child, place, leaf => by
    rw [placed, mem_map_underChild, at?_eq_comparison rfl]
    simp only [mem_placed child]
    constructor
    · rintro ⟨rest, rfl, hleaf⟩
      exact ⟨0, rest, child, rfl, rfl, hleaf⟩
    · rintro ⟨_ | j, rest, c, rfl, hc, hleaf⟩
      · obtain rfl := Option.some.inj hc
        exact ⟨rest, rfl, hleaf⟩
      · cases hc
  | .comparison own, place, leaf => by
    rw [placed, List.mem_singleton]
    cases place with
    | nil => simp [at?, eq_comm]
    | cons i place => simp [at?_cons, children]

theorem mem_placedFrom (i : Nat) : (cs : List Condition) → ∀ place leaf,
    (place, leaf) ∈ placedFrom i cs ↔ ∃ j rest c, place = (i + j) :: rest ∧ cs[j]? = some c ∧
      c.at? rest = some (.comparison leaf)
  | [], place, leaf => by simp [placedFrom]
  | c :: cs, place, leaf => by
    rw [placedFrom, List.mem_append, mem_map_underChild, mem_placedFrom (i + 1) cs]
    simp only [mem_placed c]
    constructor
    · rintro (⟨rest, rfl, hleaf⟩ | ⟨j, rest, d, rfl, hd, hleaf⟩)
      · exact ⟨0, rest, c, rfl, rfl, hleaf⟩
      · exact ⟨j + 1, rest, d, by rw [Nat.add_right_comm, Nat.add_assoc], hd, hleaf⟩
    · rintro ⟨_ | j, rest, d, rfl, hd, hleaf⟩
      · obtain rfl := Option.some.inj hd
        exact Or.inl ⟨rest, rfl, hleaf⟩
      · exact Or.inr ⟨j, rest, d, by rw [Nat.add_right_comm, Nat.add_assoc], hd, hleaf⟩
end

theorem pairwise_underChild (i : Nat) {es : List (List Nat × Comparison)}
    (h : es.Pairwise fun x y => x.1 < y.1) :
    (es.map (underChild i)).Pairwise fun x y => x.1 < y.1 := by
  apply List.pairwise_map.mpr
  apply h.imp
  intro x y hlt
  exact List.cons_lt_cons_iff.mpr (Or.inr ⟨rfl, hlt⟩)

mutual
theorem pairwise_placed : (c : Condition) → c.placed.Pairwise fun x y => x.1 < y.1
  | .all cs => pairwise_placedFrom 0 cs
  | .any cs => pairwise_placedFrom 0 cs
  | .not child => pairwise_underChild 0 (pairwise_placed child)
  | .comparison _ => List.pairwise_singleton ..

theorem pairwise_placedFrom (i : Nat) : (cs : List Condition) →
    (placedFrom i cs).Pairwise fun x y => x.1 < y.1
  | [] => List.Pairwise.nil
  | c :: cs => by
    rw [placedFrom, List.pairwise_append]
    refine ⟨pairwise_underChild i (pairwise_placed c), pairwise_placedFrom (i + 1) cs, ?_⟩
    rintro ⟨place, leaf⟩ hx ⟨later, leaf'⟩ hy
    obtain ⟨rest, rfl, -⟩ := mem_map_underChild.mp hx
    obtain ⟨j, rest', d, rfl, -⟩ := (mem_placedFrom (i + 1) cs later leaf').mp hy
    exact List.cons_lt_cons_iff.mpr (Or.inl (by omega))
end

/-- The walk ends, after one round for each node and with all comparisons; these are the leaves of
the tree from left to right, so they stand in the order of their places, each place once. -/
theorem comparisons_in_document_order (c : Condition) :
    (∀ rounds found, Walk.Ends { waiting := [c] } rounds found ↔
        rounds = c.size ∧ found = c.comparisons) ∧
      c.comparisons = c.leaves ∧
      ∃ placed : List (List Nat × Comparison), placed.map Prod.snd = c.comparisons ∧
        (placed.Pairwise fun x y => x.1 < y.1) ∧
        ∀ place leaf, (place, leaf) ∈ placed ↔ c.at? place = some (.comparison leaf) := by
  have hleaves := comparisons_eq_leaves c
  refine ⟨?_, hleaves, c.placed, ?_, pairwise_placed c, mem_placed c⟩
  · intro rounds found
    have hsize : sizeOfAll [c] = c.size := rfl
    have hharvest : Walk.harvest { waiting := [c] } = c.leaves := List.append_nil _
    rw [Walk.ends_iff, hharvest, hsize, hleaves]
  · rw [hleaves, map_placed]

/-- One comparison at two places, under a negation and beside it. -/
example :
    let leaf : Comparison := { fact := "permitType", operator := "equal" }
    (Condition.all [.not (.any [.comparison leaf]), .comparison leaf]).comparisons = [leaf, leaf] :=
  by cbv

end PermitPolicy.Condition
