import PermitPolicy.Command.Run
import PermitPolicy.Proofs.Resubmission

/-! Documents that were read.  In whatever order a text has the members of an object, and
however often one of a key, the document is canonical, and so what holds of canonical documents
holds of the applications in the files that the program is run on. -/

namespace PermitPolicy
set_option autoImplicit false

theorem Entries.mem_insertAll {α : Type} {e : String × α} {es : Entries α}
    {new : List (String × α)} (h : e ∈ insertAll es new) : e ∈ es ∨ e ∈ new := by
  induction new generalizing es with
  | nil => exact Or.inl h
  | cons n new ih =>
    rcases ih h with h | h
    · rcases mem_insert h with rfl | h
      · exact Or.inr List.mem_cons_self
      · exact Or.inl h
    · exact Or.inr (List.mem_cons_of_mem _ h)

namespace Json
open Value

theorem Value.canonicalItems_iff (items : List Value) :
    CanonicalItems items ↔ ∀ v ∈ items, v.Canonical := by
  induction items with
  | nil => simp [CanonicalItems]
  | cons v items ih => simp [CanonicalItems, ih]

theorem Value.canonical_ofMembers {ms : List (String × Value)} (h : ∀ m ∈ ms, m.2.Canonical) :
    (ofMembers ms).Canonical := by
  refine (canonical_object_iff _).mpr ⟨Entries.ofList_sorted ms, ?_⟩
  intro m hm
  rcases Entries.mem_insertAll hm with hm | hm
  · cases hm
  · exact h m hm

theorem within_eq_ok {α : Type} {step : PathStep} {x : Except ReadError α} {a : α} :
    within step x = .ok a ↔ x = .ok a := by
  cases x <;> simp [within]

section
variable {item : Cursor → ReadResult Value}
  (hitem : ∀ {c v rest}, item c = .ok (v, rest) → v.Canonical)
include hitem

theorem canonical_readItems {budget : Nat} {acc items : List Value} {c rest : Cursor}
    (hacc : ∀ v ∈ acc, v.Canonical) (h : readItems item budget acc c = .ok (items, rest)) :
    ∀ v ∈ items, v.Canonical := by
  induction budget generalizing acc c with
  | zero => cases h
  | succ budget ih =>
    rw [readItems] at h
    split at h
    · cases h
    · cases h
      simpa using hacc
    · split at h
      · cases h
      · rename_i v _ hread
        have hv : v.Canonical := hitem (within_eq_ok.mp hread)
        exact ih (List.forall_mem_cons.mpr ⟨hv, hacc⟩) h

theorem canonical_readMembers {budget : Nat} {acc ms : List (String × Value)} {c rest : Cursor}
    (hacc : ∀ m ∈ acc, m.2.Canonical) (h : readMembers item budget acc c = .ok (ms, rest)) :
    ∀ m ∈ ms, m.2.Canonical := by
  induction budget generalizing acc c with
  | zero => cases h
  | succ budget ih =>
    rw [readMembers] at h
    split at h
    · cases h
    · cases h
      simpa using hacc
    · split at h
      · cases h
      · split at h
        · cases h
        · split at h
          · cases h
          · rename_i v _ hread
            have hv : v.Canonical := hitem (within_eq_ok.mp hread)
            exact ih (List.forall_mem_cons.mpr ⟨hv, hacc⟩) h

end

/-- One level: a value is canonical if the values nested in it are. -/
theorem canonical_readValue_of {depth : Nat}
    (hnested : ∀ {d c v rest}, depth = d + 1 → readValue d c = .ok (v, rest) → v.Canonical)
    {c rest : Cursor} {v : Value} (h : readValue depth c = .ok (v, rest)) : v.Canonical := by
  unfold readValue at h
  dsimp only at h
  split at h
  case h_1 => cases h
  case h_7 =>
    split at h
    · cases h
    · obtain ⟨_, hread, h⟩ := bind_eq_ok.mp h
      cases h
      have hitems := canonical_readItems (hnested rfl) (List.forall_mem_nil _) hread
      exact (canonicalItems_iff _).mpr hitems
  case h_8 =>
    split at h
    · cases h
    · obtain ⟨_, hread, h⟩ := bind_eq_ok.mp h
      cases h
      have hmembers := canonical_readMembers (hnested rfl) (List.forall_mem_nil _) hread
      exact canonical_ofMembers hmembers
  case h_9 =>
    split at h
    · obtain ⟨_, -, h⟩ := bind_eq_ok.mp h
      cases h
      trivial
    · cases h
  all_goals
    obtain ⟨_, -, h⟩ := bind_eq_ok.mp h
    cases h
    trivial

theorem canonical_readValue {depth : Nat} {c rest : Cursor} {v : Value}
    (h : readValue depth c = .ok (v, rest)) : v.Canonical := by
  induction depth generalizing c v rest with
  | zero =>
    refine canonical_readValue_of ?_ h
    intro _ _ _ _ hd
    cases hd
  | succ depth ih =>
    refine canonical_readValue_of ?_ h
    intro _ _ _ _ hd
    obtain rfl := Nat.succ.inj hd
    exact ih

/-- Every document that a text holds is canonical. -/
theorem canonical_read {text : String} {v : Value} (h : read text = .ok v) : v.Canonical := by
  obtain ⟨⟨w, c⟩, hread, h⟩ := bind_eq_ok.mp h
  dsimp only at h
  split at h
  · cases h
    exact canonical_readValue hread
  · cases h

end Json

namespace Command
open Calendar

variable {around : Surroundings} {policy : Option String} {today : Option Date}
  {application other text text' : String} {d e : Json.Value}

section
variable {readFile : String → Id (Except FileFault String)}

theorem loadText_eq (h : readFile application = pure (.ok text)) :
    loadText readFile application = (pure text : ExceptT Fault Id String) := by
  unfold loadText
  rw [h]
  rfl

theorem validateFiles_congr (ht : readFile application = pure (.ok text))
    (ht' : readFile other = pure (.ok text')) (hd : Json.read text = .ok d)
    (he : Json.read text' = .ok e)
    (h : ∀ p : Policy, p.validateDocument d = p.validateDocument e) :
    validateFiles readFile around policy application today =
      validateFiles readFile around policy other today := by
  unfold validateFiles
  -- Up to the text of the application both runs take the same steps.
  refine bind_congr fun environment => bind_congr fun settings => bind_congr fun p => ?_
  rw [loadText_eq ht, loadText_eq ht', pure_bind, pure_bind, hd, he]
  exact congrArg pure (h p)

end

/-- Whatever the policy's file holds, a run says of the completed application what it says of the
application, and the same without members that tell nothing. -/
theorem runIn_of_same {files : Directory} {arguments others : List String}
    (ha : read arguments = .ok (.validate policy application today))
    (ho : read others = .ok (.validate policy other today))
    (ht : files.read application = .ok text) (ht' : files.read other = .ok text')
    (hd : Json.read text = .ok d) (he : Json.read text' = .ok e)
    (h : e = Facts.completed d ∨ Relation.ReflTransGen Application.LeavesOut d e) :
    runIn files around arguments = runIn files around others := by
  have hcanonical := Json.canonical_read hd
  obtain ⟨-, hcompleted⟩ := Facts.completed_of_same hcanonical h
  have htype : Policy.permitTypeId? d = Policy.permitTypeId? e := by
    rw [← Policy.permitTypeId?_completed hcanonical,
      ← Policy.permitTypeId?_completed (Json.canonical_read he), hcompleted]
  have hreport : ∀ p : Policy, p.validateDocument d = p.validateDocument e :=
    fun p => (p.validateDocument_congr hcompleted.symm htype).2
  have hfiles : validateFiles (fun path => pure (files.read path)) around policy application today =
      validateFiles (fun path => pure (files.read path)) around policy other today :=
    validateFiles_congr (congrArg pure ht) (congrArg pure ht') hd he hreport
  rw [runIn, run, ha, runIn, run, ho]
  dsimp only
  rw [Invocation.run, hfiles, Invocation.run]

end Command
end PermitPolicy
