import Mathlib.Data.List.TakeDrop
import PermitPolicy.Facts.Basic
import PermitPolicy.Proofs.DateReading

/-! Paths written step by step: a dollar sign, then each key after a dot and each index between
brackets.  Cut at its dots and brackets, such a text gives the same steps again, so it selects
what they lead to one after the other, and nothing as soon as one of them does not apply. -/

namespace PermitPolicy
open Json
set_option autoImplicit false

namespace Text

theorem splitAt_append {p : Char → Bool} {front : List Char} (hf : ∀ c ∈ front, p c = false)
    {cs first : List Char} {others : List (List Char)} (h : splitAt p cs = first :: others) :
    splitAt p (front ++ cs) = (front ++ first) :: others := by
  induction front with
  | nil => exact h
  | cons c front ih =>
    have hc : p c = false := hf c List.mem_cons_self
    have hrest := ih fun b hb => hf b (List.mem_cons_of_mem _ hb)
    simp [splitAt, hc, hrest]

theorem splitAt_separator {p : Char → Bool} {c : Char} (hc : p c = true) (cs : List Char) :
    splitAt p (c :: cs) = [] :: splitAt p cs := by
  simp [splitAt, hc]

theorem words_separator {p : Char → Bool} {c : Char} (hc : p c = true) (cs : List Char) :
    words p (c :: cs) = words p cs := by
  simp [words, splitAt_separator hc]

theorem words_word {p : Char → Bool} {word : List Char} (hne : word ≠ [])
    (hw : ∀ c ∈ word, p c = false) {c : Char} (hc : p c = true) (cs : List Char) :
    words p (word ++ c :: cs) = word :: words p cs := by
  simp [words, splitAt_append hw (splitAt_separator hc cs), hne]

/-- Digits are read as their number, unless it is above the largest one. -/
theorem readDigits_eq {largest : Nat} {ds : List Char} (hd : ∀ c ∈ ds, c.isDigit = true) {n : Nat}
    (hn : n ≤ largest) :
    readDigits largest n ds =
      if Nat.ofDigitChars 10 ds n ≤ largest then .ok (Nat.ofDigitChars 10 ds n)
      else .error .tooLarge := by
  induction ds generalizing n with
  | nil => simp [readDigits, hn]
  | cons c ds ih =>
    have hc : c.isDigit = true := hd c List.mem_cons_self
    rw [Nat.ofDigitChars_cons, Nat.mul_comm 10 n]
    simp only [readDigits, hc, Bool.not_true, Bool.false_eq_true, if_false]
    by_cases hm : n * 10 + (c.toNat - '0'.toNat) ≤ largest
    · rw [if_pos hm]
      exact ih (fun b hb => hd b (List.mem_cons_of_mem _ hb)) hm
    · have hle := Calendar.le_ofDigitChars ds (n * 10 + (c.toNat - '0'.toNat))
      rw [if_neg hm, if_neg (by omega)]

theorem trimChars_eq {cs : List Char} (hb : Begins cs) (he : Ends cs) : trimChars cs = cs := by
  have htrim := he.trimRight_append []
  rw [List.append_nil] at htrim
  rw [trimChars, hb.trimLeft_eq, htrim]
  exact List.append_nil cs

theorem parseNat?_toDigits (largest n : Nat) :
    parseNat? largest (trimChars (Nat.toDigits 10 n)) = if n ≤ largest then some n else none := by
  have hd : ∀ c ∈ Nat.toDigits 10 n, c.isDigit = true := fun c hc =>
    Nat.isDigit_of_mem_toDigits (by decide) (by decide) hc
  have hvalue := readDigits_eq hd (Nat.zero_le largest)
  rw [Nat.ofDigitChars_ten_toDigits] at hvalue
  have hends : Ends (Nat.toDigits 10 n) := Calendar.ends_of_digits Nat.toDigits_ne_nil hd
  obtain ⟨c, ds, hcons⟩ := List.exists_cons_of_ne_nil (Nat.toDigits_ne_nil (b := 10) (n := n))
  rw [hcons] at hd hvalue hends ⊢
  have hc : c.isDigit = true := hd c List.mem_cons_self
  rw [trimChars_eq ⟨c, rfl, isBlank_of_isDigit hc⟩ hends, parseNat?]
  have hplus : ∀ rest, c :: ds ≠ '+' :: rest := by
    rintro rest heq
    obtain ⟨rfl, -⟩ := List.cons.inj heq
    cases hc
  have hread : readNat largest (c :: ds) = readDigits largest 0 (c :: ds) := by
    rw [readNat, readNatural]
    · nofun
    · nofun
    · exact hplus
  rw [hread, hvalue]
  split <;> rfl

end Text

namespace Path

def stepText : PathStep → String
  | .key name => "." ++ name
  | .index i => "[" ++ toString i ++ "]"

def write (steps : List PathStep) : String := "$" ++ String.join (steps.map stepText)

/-- Steps whose text can be cut up again: no key is empty or holds a dot or an opening bracket,
and a key at the end does not end in a blank. -/
structure Legible (steps : List PathStep) : Prop where
  word : ∀ name, .key name ∈ steps → name ≠ "" ∧ '.' ∉ name.toList ∧ '[' ∉ name.toList
  ending : ∀ name, steps.getLast? = some (.key name) →
    ∀ c ∈ name.toList.getLast?, Text.isBlank c = false

/-- What a value has under a key or at an index. -/
inductive Step : Value → PathStep → Value → Prop
  | member {ms : List (String × Value)} {name : String} {v : Value}
      (h : Entries.get? name ms = some v) : Step (.object ms) (.key name) v
  | element {items : List Value} {i : Nat} {v : Value} (hi : i ≤ largestIndex)
      (h : items[i]? = some v) : Step (.array items) (.index i) v

/-- Why a step does not apply to a value. -/
inductive Fails : Value → PathStep → Prop
  | noMember {ms : List (String × Value)} {name : String} (h : Entries.get? name ms = none) :
      Fails (.object ms) (.key name)
  | noObject {v : Value} {name : String} (h : v.isObject = false) : Fails v (.key name)
  | noArray {v : Value} {i : Nat} (h : v.isArray = false) : Fails v (.index i)
  | outOfRange {items : List Value} {i : Nat} (h : items.length ≤ i) :
      Fails (.array items) (.index i)
  | tooLarge {v : Value} {i : Nat} (h : largestIndex < i) : Fails v (.index i)

/-- The value at which steps arrive one after the other. -/
inductive Leads : Value → List PathStep → Value → Prop
  | here (v : Value) : Leads v [] v
  | step {v w x : Value} {s : PathStep} {rest : List PathStep} (hs : Step v s w)
      (hrest : Leads w rest x) : Leads v (s :: rest) x

def fits : PathStep → Bool
  | .key _ => true
  | .index i => i ≤ largestIndex

def stepWithin? (v : Value) (s : PathStep) : Option Value := if fits s then step? v s else none

theorem stepWithin?_key (v : Value) (name : String) : stepWithin? v (.key name) = v.get? name := rfl

theorem stepWithin?_index (v : Value) (i : Nat) :
    stepWithin? v (.index i) = if i ≤ largestIndex then v.at? i else none := by
  simp [stepWithin?, fits, step?]

theorem stepWithin?_eq_some {v w : Value} {s : PathStep} :
    stepWithin? v s = some w ↔ Step v s w := by
  constructor
  · intro h
    cases s with
    | key name =>
      rw [stepWithin?_key] at h
      cases v with
      | object ms => exact .member h
      | _ => cases h
    | index i =>
      rw [stepWithin?_index] at h
      split at h
      · rename_i hi
        cases v with
        | array items => exact .element hi h
        | _ => cases h
      · cases h
  · intro h
    cases h with
    | member h => exact h
    | element hi h => rwa [stepWithin?_index, if_pos hi]

theorem stepWithin?_eq_none {v : Value} {s : PathStep} : stepWithin? v s = none ↔ Fails v s := by
  constructor
  · intro h
    cases s with
    | key name =>
      rw [stepWithin?_key] at h
      cases v with
      | object ms => exact .noMember h
      | _ => exact .noObject rfl
    | index i =>
      rw [stepWithin?_index] at h
      split at h
      · cases v with
        | array items => exact .outOfRange (List.getElem?_eq_none_iff.mp h)
        | _ => exact .noArray rfl
      · rename_i hi
        exact .tooLarge (Nat.lt_of_not_le hi)
  · intro h
    cases h with
    | noMember h => exact h
    | noObject h =>
      rw [stepWithin?_key]
      cases v with
      | object ms => cases h
      | _ => rfl
    | noArray h =>
      rw [stepWithin?_index]
      split
      · cases v with
        | array items => cases h
        | _ => rfl
      · rfl
    | outOfRange h =>
      rw [stepWithin?_index]
      split
      · exact List.getElem?_eq_none_iff.mpr h
      · rfl
    | tooLarge h => rw [stepWithin?_index, if_neg (Nat.not_le_of_lt h)]

theorem leads_cons {v x : Value} {s : PathStep} {rest : List PathStep} :
    Leads v (s :: rest) x ↔ ∃ w, Step v s w ∧ Leads w rest x := by
  constructor
  · rintro (_ | ⟨hs, hrest⟩)
    exact ⟨_, hs, hrest⟩
  · rintro ⟨w, hs, hrest⟩
    exact .step hs hrest

theorem foldlM_eq_some {v w : Value} {steps : List PathStep} :
    steps.foldlM stepWithin? v = some w ↔ Leads v steps w := by
  induction steps generalizing v with
  | nil =>
    constructor
    · rintro ⟨⟩
      exact .here _
    · rintro ⟨⟩
      rfl
  | cons s rest ih =>
    rw [List.foldlM_cons, leads_cons]
    simp only [Option.bind_eq_bind, Option.bind_eq_some_iff, stepWithin?_eq_some, ih]

/-- Steps lead nowhere if and only if one of them does not apply where those before it lead. -/
theorem foldlM_eq_none {v : Value} {steps : List PathStep} :
    steps.foldlM stepWithin? v = none ↔
      ∃ before s after w, steps = before ++ s :: after ∧ Leads v before w ∧ Fails w s := by
  induction steps generalizing v with
  | nil => simp
  | cons s rest ih =>
    rw [List.foldlM_cons]
    cases hs : stepWithin? v s with
    | none => exact iff_of_true rfl ⟨[], s, rest, v, rfl, .here v, stepWithin?_eq_none.mp hs⟩
    | some next =>
      change rest.foldlM stepWithin? next = none ↔ _
      rw [ih]
      constructor
      · rintro ⟨before, t, after, w, rfl, hleads, hfails⟩
        exact ⟨s :: before, t, after, w, rfl, .step (stepWithin?_eq_some.mp hs) hleads, hfails⟩
      · rintro ⟨before, t, after, w, heq, hleads, hfails⟩
        cases hleads with
        | here =>
          obtain ⟨rfl, -⟩ := List.cons.inj heq
          rw [stepWithin?_eq_none.mpr hfails] at hs
          cases hs
        | step hstep hrest =>
          obtain ⟨rfl, rfl⟩ := List.cons.inj heq
          rw [stepWithin?_eq_some.mpr hstep] at hs
          obtain rfl := Option.some.inj hs
          exact ⟨_, t, after, w, rfl, hrest, hfails⟩

theorem follow?_of_fits (v : Value) (steps : List PathStep) :
    (if steps.all fits then follow? v steps else none) = steps.foldlM stepWithin? v := by
  induction steps generalizing v with
  | nil => rfl
  | cons s rest ih =>
    rw [List.foldlM_cons, List.all_cons, follow?, stepWithin?]
    cases fits s with
    | false => rfl
    | true =>
      cases step? v s with
      | none => simp
      | some w => simpa using ih w

/-! ### Cutting up a written path -/

/-- The text begins with a bracket, if there is any. -/
def StartsIndices (cs : List Char) : Prop := ∀ c ∈ cs.head?, c = '['

theorem span_key {name indices : List Char} (hn : '[' ∉ name) (hi : StartsIndices indices) :
    (name ++ indices).span (· ≠ '[') = (name, indices) := by
  have hall : ∀ c ∈ name, decide (c ≠ '[') = true := by
    intro c hc
    simpa using fun he : c = '[' => hn (he ▸ hc)
  rw [List.span_eq_takeWhile_dropWhile, List.takeWhile_append_of_pos hall,
    List.dropWhile_append_of_pos hall]
  cases indices with
  | nil => simp
  | cons c cs =>
    obtain rfl : c = '[' := hi c rfl
    simp

def readIndices (cs : List Char) : Option (List PathStep) :=
  (Text.words (fun c => c = '[' || c = ']') cs).mapM fun word =>
    (Text.parseNat? largestIndex (Text.trimChars word)).map PathStep.index

theorem pieceSteps_indices {indices : List Char} (hi : StartsIndices indices) :
    pieceSteps indices = readIndices indices := by
  have hspan := span_key List.not_mem_nil hi
  rw [List.nil_append] at hspan
  unfold pieceSteps
  rw [hspan]
  simp [readIndices]

theorem pieceSteps_key {name indices : List Char} (hne : name ≠ []) (hn : '[' ∉ name)
    (hi : StartsIndices indices) :
    pieceSteps (name ++ indices) = (pieceSteps indices).map (.key (String.ofList name) :: ·) := by
  rw [pieceSteps_indices hi]
  unfold pieceSteps readIndices
  rw [span_key hn hi]
  simp only [List.isEmpty_iff, hne, if_false, Option.pure_def, Option.bind_eq_bind,
    Option.map_eq_bind]
  rfl

def indexChars (i : Nat) : List Char := '[' :: (Nat.toDigits 10 i ++ [']'])

theorem startsIndices_index (i : Nat) (indices : List Char) :
    StartsIndices (indexChars i ++ indices) := by
  rintro c ⟨⟩
  rfl

theorem pieceSteps_index (i : Nat) {indices : List Char} (hi : StartsIndices indices) :
    pieceSteps (indexChars i ++ indices) =
      if fits (.index i) then (pieceSteps indices).map (.index i :: ·) else none := by
  have hdigits : ∀ c ∈ Nat.toDigits 10 i, (c = '[' || c = ']') = false := by
    intro c hc
    have hdigit : c.isDigit = true := Nat.isDigit_of_mem_toDigits (by decide) (by decide) hc
    have hbounds := Text.toNat_of_isDigit hdigit
    simp only [Bool.or_eq_false_iff, decide_eq_false_iff_not]
    constructor
    · rintro rfl
      exact absurd hbounds (by decide)
    · rintro rfl
      exact absurd hbounds (by decide)
  have hwords : Text.words (fun c => c = '[' || c = ']') (indexChars i ++ indices) =
      Nat.toDigits 10 i :: Text.words (fun c => c = '[' || c = ']') indices := by
    rw [indexChars, List.cons_append, List.append_assoc, Text.words_separator rfl]
    exact Text.words_word Nat.toDigits_ne_nil hdigits rfl indices
  rw [pieceSteps_indices (startsIndices_index i indices), pieceSteps_indices hi]
  unfold readIndices
  rw [hwords, List.mapM_cons, Text.parseNat?_toDigits]
  by_cases hfits : i ≤ largestIndex
  · simp only [hfits, if_true, fits, decide_true, Option.map_eq_bind]
    rfl
  · simp [hfits, fits]

theorem not_mem_indexChars {c : Char} (hc : c.isDigit = false) (hopen : c ≠ '[')
    (hclose : c ≠ ']') (i : Nat) : c ∉ indexChars i := by
  intro hmem
  simp only [indexChars, List.mem_cons, List.mem_append, List.not_mem_nil, or_false] at hmem
  rcases hmem with h | h | h
  · exact hopen h
  · rw [Nat.isDigit_of_mem_toDigits (by decide) (by decide) h] at hc
    cases hc
  · exact hclose h

def readPieces (ps : List (List Char)) : Option (List PathStep) :=
  (ps.mapM pieceSteps).map List.flatten

theorem readPieces_cons (p : List Char) (ps : List (List Char)) :
    readPieces (p :: ps) = (pieceSteps p).bind fun front => (readPieces ps).map (front ++ ·) := by
  unfold readPieces
  rw [List.mapM_cons]
  cases pieceSteps p with
  | none => rfl
  | some front => cases ps.mapM pieceSteps <;> rfl

theorem readPieces_nil_cons (ps : List (List Char)) : readPieces ([] :: ps) = readPieces ps := by
  have hnil : pieceSteps [] = some [] := rfl
  rw [readPieces_cons, hnil]
  simp

/-- Empty pieces have no steps, so it makes no difference to skip them. -/
theorem readPieces_filter (ps : List (List Char)) :
    readPieces (ps.filter (!·.isEmpty)) = readPieces ps := by
  induction ps with
  | nil => rfl
  | cons p ps ih =>
    cases p with
    | nil => rw [List.filter_cons_of_neg (by simp), readPieces_nil_cons, ih]
    | cons c cs => rw [List.filter_cons_of_pos rfl, readPieces_cons, readPieces_cons, ih]

theorem readPieces_step {p q : List Char} {s : PathStep}
    (h : pieceSteps p = (pieceSteps q).map (s :: ·)) (ps : List (List Char)) :
    readPieces (p :: ps) = (readPieces (q :: ps)).map (s :: ·) := by
  rw [readPieces_cons, readPieces_cons, h]
  cases pieceSteps q with
  | none => rfl
  | some front => cases readPieces ps <;> rfl

def stepChars : PathStep → List Char
  | .key name => '.' :: name.toList
  | .index i => indexChars i

/-- The dots cut written steps into the indices before the first key, and each key with the
indices after it. -/
theorem exists_pieces {steps : List PathStep}
    (h : ∀ name, .key name ∈ steps → name ≠ "" ∧ '.' ∉ name.toList ∧ '[' ∉ name.toList) :
    ∃ first others, Text.splitAt (· = '.') (steps.flatMap stepChars) = first :: others ∧
      StartsIndices first ∧
      readPieces (first :: others) = if steps.all fits then some steps else none := by
  induction steps with
  | nil => exact ⟨[], [], rfl, nofun, rfl⟩
  | cons s rest ih =>
    obtain ⟨first, others, hsplit, hstart, hread⟩ :=
      ih fun name hname => h name (List.mem_cons_of_mem _ hname)
    rw [List.flatMap_cons]
    cases s with
    | key name =>
      obtain ⟨hne, hdot, hopen⟩ := h name List.mem_cons_self
      have hchars : ∀ c ∈ name.toList, decide (c = '.') = false := by
        intro c hc
        simpa using fun he : c = '.' => hdot (he ▸ hc)
      have hname : name.toList ≠ [] := by simpa using hne
      refine ⟨[], (name.toList ++ first) :: others, ?_, nofun, ?_⟩
      · rw [stepChars, List.cons_append, Text.splitAt_separator rfl,
          Text.splitAt_append hchars hsplit]
      · rw [readPieces_nil_cons, readPieces_step (pieceSteps_key hname hopen hstart), hread,
          String.ofList_toList, List.all_cons, fits, Bool.true_and]
        split <;> rfl
    | index i =>
      have hchars : ∀ c ∈ indexChars i, decide (c = '.') = false := by
        intro c hc
        have hdot : '.' ∉ indexChars i := not_mem_indexChars rfl (by decide) (by decide) i
        simpa using fun he : c = '.' => hdot (he ▸ hc)
      refine ⟨indexChars i ++ first, others, Text.splitAt_append hchars hsplit,
        startsIndices_index i first, ?_⟩
      have hpiece := pieceSteps_index i hstart
      rw [List.all_cons]
      cases hfits : fits (.index i) with
      | true =>
        rw [hfits, if_pos rfl] at hpiece
        rw [readPieces_step hpiece, hread, Bool.true_and]
        split <;> rfl
      | false =>
        rw [hfits] at hpiece
        rw [readPieces_cons, hpiece]
        rfl

theorem toList_stepText (s : PathStep) : (stepText s).toList = stepChars s := by
  cases s with
  | key name => simp [stepText, stepChars]
  | index i => simp [stepText, stepChars, indexChars]

theorem toList_write (steps : List PathStep) :
    (write steps).toList = '$' :: steps.flatMap stepChars := by
  have htexts : (steps.map stepText).flatMap String.toList = steps.flatMap stepChars := by
    simp only [List.flatMap_map, toList_stepText]
  rw [write, String.toList_append, String.toList_join, htexts]
  rfl

theorem ends_write {steps : List PathStep} (h : Legible steps) :
    Text.Ends ('$' :: steps.flatMap stepChars) := by
  rcases steps.eq_nil_or_concat with rfl | ⟨front, s, heq⟩
  · exact ⟨'$', rfl, rfl⟩
  · have hlast : Text.Ends (stepChars s) := by
      cases s with
      | key name =>
        have hname := h.word name (by simp [heq])
        have hne : name.toList ≠ [] := by simpa using hname.1
        have hend := h.ending name (by simp [heq]) _ (List.getLast?_eq_some_getLast hne)
        exact Text.Ends.append ⟨_, List.getLast?_eq_some_getLast hne, hend⟩ ['.']
      | index i => exact Text.Ends.append ⟨']', rfl, rfl⟩ ('[' :: Nat.toDigits 10 i)
    rw [heq, List.concat_eq_append, List.flatMap_append, List.flatMap_singleton]
    exact hlast.append ('$' :: front.flatMap stepChars)

theorem steps?_write {steps : List PathStep} (h : Legible steps) :
    steps? (write steps) = if steps.all fits then some steps else none := by
  obtain ⟨first, others, hsplit, -, hread⟩ := exists_pieces h.word
  have htrim : Text.trimChars (write steps).toList = '$' :: steps.flatMap stepChars := by
    rw [toList_write]
    exact Text.trimChars_eq ⟨'$', rfl, rfl⟩ (ends_write h)
  have hsteps : steps? (write steps) =
      readPieces (Text.words (· = '.') (steps.flatMap stepChars)) := by
    unfold steps? readPieces
    rw [htrim, Option.map_eq_bind]
    rfl
  rw [hsteps, Text.words, readPieces_filter, hsplit, hread]

theorem select?_write_eq {steps : List PathStep} (h : Legible steps) (v : Value) :
    select? v (write steps) = steps.foldlM stepWithin? v := by
  rw [select?, steps?_write h, ← follow?_of_fits]
  split <;> rfl

/-- A written path selects what its steps lead to, one after the other, and nothing if and only
if one of them does not apply where those before it lead. -/
theorem select?_write {steps : List PathStep} (h : Legible steps) (v : Value) :
    (∀ w, select? v (write steps) = some w ↔ Leads v steps w) ∧
      (select? v (write steps) = none ↔
        ∃ before s after w, steps = before ++ s :: after ∧ Leads v before w ∧ Fails w s) := by
  rw [select?_write_eq h]
  exact ⟨fun w => foldlM_eq_some, foldlM_eq_none⟩

/-- Keys with a closing bracket, blanks and a dollar sign, and an index beyond all bounds. -/
theorem select?_write_bracket_in_key :
    let rows : Value := .array [.array [.null, .object [(" $ b", .string "x")]]]
    let v : Value := .array [.null, .object [("a]", rows)]]
    let front : List PathStep := [.index 1, .key "a]"]
    let steps : List PathStep := front ++ [.index 0, .index 1, .key " $ b"]
    let beyond : List PathStep := front ++ [.index 18446744073709551616]
    Legible steps ∧ write steps = "$[1].a][0][1]. $ b" ∧
      select? v (write steps) = some (.string "x") ∧
      Legible beyond ∧ select? v (write beyond) = none := by
  intro rows v front steps beyond
  have hsteps : Legible steps := by
    constructor <;> simp [steps, front, Text.isBlank]
  have hbeyond : Legible beyond := by
    constructor <;> simp [beyond, front]
  have hfront : Leads v front rows :=
    .step (.element (by decide) rfl) (.step (.member rfl) (.here _))
  have hleads : Leads v steps (.string "x") :=
    .step (.element (by decide) rfl) (.step (.member rfl) (.step (.element (by decide) rfl)
      (.step (.element (by decide) rfl) (.step (.member rfl) (.here _)))))
  refine ⟨hsteps, by decide, ((select?_write hsteps v).1 _).mpr hleads, hbeyond, ?_⟩
  exact (select?_write hbeyond v).2.mpr ⟨front, _, [], _, rfl, hfront, .tooLarge (by decide)⟩

end Path
end PermitPolicy
