import PermitPolicy.Proofs.DateItems

/-! Reading what items wrote.  As long as each number is set off from the digits behind it, what a
date wrote is read item by item, and the clues are what the items tell.  A number that runs on into
other digits is read as another number, and what comes after it adds clues but drops none, so the
clues do not fit the date any more. -/

namespace PermitPolicy.Calendar
set_option autoImplicit false

theorem read_trimLeft (what : DateNumber) (cs : List Char) :
    what.read (Text.trimLeft cs) = what.read cs := by
  unfold DateNumber.read
  rw [Text.trimLeft_trimLeft]

theorem ends_of_digits {digits : List Char} (hne : digits ≠ [])
    (hd : ∀ c ∈ digits, c.isDigit = true) : Text.Ends digits :=
  ⟨digits.getLast hne, List.getLast?_eq_some_getLast hne,
    Text.isBlank_of_isDigit (hd _ (List.getLast_mem hne))⟩

theorem Numeral.ends {what : DateNumber} {text : List Char} {n : Int} (h : Numeral what text n) :
    Text.Ends text := by
  cases h with
  | plain hb hne hd hfits hw => exact (ends_of_digits hne hd).append _
  | signed negative hs hb hne hd hfits =>
    exact ((ends_of_digits hne hd).append [_]).append _

theorem DateNumber.ends_write (d : Date) (padding : Padding) (what : DateNumber) :
    Text.Ends (what.write padding d) := by
  by_cases h : Legible d what
  · exact (numeral_write d padding h).ends
  · obtain ⟨rfl, hn⟩ : what = .century ∧ ¬ d.year / 100 % 256 < 100 := Classical.not_imp.mp h
    have hones : ∀ k, k < 10 → Text.isBlank (Char.ofNat ('0'.toNat + k)) = false := by decide
    have htext : DateNumber.write padding d .century = _ :=
      if_neg (show (d.year / 100 % 256).toNat / 10 ≠ 0 by omega)
    rw [htext]
    exact ⟨_, rfl, hones _ (by omega)⟩

theorem DateName.begins_write (d : Date) (what : DateName) :
    Text.Begins (what.write d) ∧ Text.Ends (what.write d) := by
  rw [Text.begins_iff, Text.ends_iff]
  have hmonths : ∀ m, m < 12 → ∀ name ∈ [monthName (m + 1), abbreviate (monthName (m + 1))],
      (name.head?.any fun c => !Text.isBlank c) = true ∧
        (name.getLast?.any fun c => !Text.isBlank c) = true := by decide
  have hmonth := hmonths (d.month - 1) (by have := d.month_range; omega)
  rw [Nat.sub_add_cancel d.month_range.1] at hmonth
  have hday : ∀ name ∈ [d.weekday.name, abbreviate d.weekday.name],
      (name.head?.any fun c => !Text.isBlank c) = true ∧
        (name.getLast?.any fun c => !Text.isBlank c) = true := by
    cases d.weekday <;> decide
  cases what with
  | longMonth => exact hmonth _ (by simp [DateName.write])
  | shortMonth => exact hmonth _ (by simp [DateName.write])
  | longWeekday => exact hday _ (by simp [DateName.write])
  | shortWeekday => exact hday _ (by simp [DateName.write])

namespace DateItem
variable (d : Date)

def text (item : DateItem) : List Char := (item.write? d).getD []

def textAll (items : List DateItem) : List Char := items.flatMap (text d)

/-- The text of items at the end of a format, where blanks are trimmed. -/
def ending (items : List DateItem) : List Char := Text.trimRight (textAll d items)

/-- A number has all its digits, or no digit follows it. -/
def Apart (what : DateNumber) (padding : Padding) (rest : List DateItem) : Prop :=
  Full what (what.write padding d) ∨ StopsDigits (textAll d rest)

def SetOff : List DateItem → Prop
  | [] => True
  | .number what padding :: rest => Apart d what padding rest ∧ SetOff rest
  | _ :: rest => SetOff rest

/-- No zero is followed by a further zero, unless it has all its digits. -/
def ZerosEnd : List DateItem → Prop
  | [] => True
  | .number what padding :: rest =>
    (what.value d = 0 → Full what (what.write padding d) ∨ (textAll d rest).head? ≠ some '0') ∧
      ZerosEnd rest
  | _ :: rest => ZerosEnd rest

theorem writeAll?_eq {items : List DateItem} (h : .timeOfDay ∉ items) :
    writeAll? d items = some (textAll d items) := by
  induction items with
  | nil => rfl
  | cons item items ih =>
    have hrest := ih fun hm => h (List.mem_cons_of_mem _ hm)
    cases item with
    | timeOfDay => exact absurd List.mem_cons_self h
    | _ => simp [writeAll?, write?, hrest, textAll, text]

theorem timeOfDay_not_mem {items : List DateItem} (h : (writeAll? d items).isSome) :
    .timeOfDay ∉ items := by
  induction items with
  | nil => exact nofun
  | cons item items ih =>
    unfold writeAll? at h
    split at h
    · rename_i hitem hrest
      have hi := ih (by simp [hrest])
      intro hm
      rcases List.mem_cons.mp hm with rfl | hm
      · cases hitem
      · exact hi hm
    · cases h

variable {d} {item : DateItem} {items : List DateItem}

theorem ending_cons (item : DateItem) {written : List Char} (ht : text d item = written)
    (h : Text.Ends written) : ending d (item :: items) = written ++ ending d items := by
  subst ht
  exact h.trimRight_append _

theorem begins_literal {text : List Char} (h : (literal text).Proper) :
    Text.Begins text ∧ Text.Ends text := by
  obtain ⟨hne, hc⟩ := h
  refine ⟨?_, ⟨text.getLast hne, List.getLast?_eq_some_getLast hne, hc _ (List.getLast_mem hne)⟩⟩
  obtain ⟨c, cs, rfl⟩ := List.exists_cons_of_ne_nil hne
  exact ⟨c, rfl, hc c List.mem_cons_self⟩

theorem ending_number (what : DateNumber) (padding : Padding) (items : List DateItem) :
    ending d (.number what padding :: items) = what.write padding d ++ ending d items :=
  ending_cons _ rfl (what.ends_write d padding)

structure Accepted (items : List DateItem) : Prop where
  proper : ∀ item ∈ items, item.Proper
  noTime : .timeOfDay ∉ items

theorem Accepted.tail (h : Accepted (item :: items)) : Accepted items :=
  ⟨fun i hi => h.proper i (List.mem_cons_of_mem _ hi),
    fun ht => h.noTime (List.mem_cons_of_mem _ ht)⟩

/-- Blanks in front are passed over: by a blank, by a number, and elsewhere there are none. -/
theorem readAll_trimLeft (ha : Accepted items) (c : DateClues) :
    readAll items c (Text.trimLeft (ending d items)) = readAll items c (ending d items) := by
  cases items with
  | nil => rfl
  | cons item items =>
    have hbegins : Text.Begins (text d item) →
        Text.trimLeft (ending d (item :: items)) = ending d (item :: items) :=
      fun h => (h.append _).trimRight.trimLeft_eq
    have hread : (∀ cs, item.read c (Text.trimLeft cs) = item.read c cs) → ∀ cs,
        readAll (item :: items) c (Text.trimLeft cs) = readAll (item :: items) c cs := by
      intro h cs
      rw [readAll, readAll, h]
    cases item with
    | literal text => rw [hbegins (begins_literal (ha.proper _ List.mem_cons_self)).1]
    | blank text =>
      apply hread
      intro cs
      rw [read, read, Text.trimLeft_trimLeft]
    | number what padding =>
      apply hread
      intro cs
      rw [read, read, read_trimLeft]
    | name what => rw [hbegins (what.begins_write d).1]
    | timeOfDay => rfl

theorem readLiteral_append (text rest : List Char) :
    readLiteral text (text ++ rest) = .ok rest := by
  unfold readLiteral
  rw [Text.utf8Length_append, if_neg (by omega), if_pos (by simp)]
  simp

theorem stopsDigits_ending : StopsDigits (ending d items) ↔ StopsDigits (textAll d items) := by
  constructor
  · intro h c hc
    rw [← Bool.not_eq_true]
    intro hd
    have hbegins : Text.Begins (textAll d items) := ⟨c, hc, Text.isBlank_of_isDigit hd⟩
    obtain ⟨b, hb, -⟩ := hbegins.trimRight
    obtain rfl : c = b := Option.mem_unique hc (Text.head?_trimRight hb)
    rw [h c hb] at hd
    cases hd
  · exact fun h c hc => h c (Text.head?_trimRight hc)

theorem read_name (what : DateName) (said : List DateNumber) (rest : List Char) :
    what.read (cluesOf d said) (what.write d ++ rest) =
      .ok (cluesOf d ((name what).clue?.toList ++ said), rest) := by
  obtain ⟨hshort, hlong⟩ := read_month d.month d.month_range rest
  obtain ⟨hshort', hlong'⟩ := read_weekday d.weekday rest
  have hmonth := set_cluesOf d said .month
  have hday := setWeekday_cluesOf d said
  cases what with
  | shortMonth =>
    simp only [DateName.read, bind_eq_ok, pure_eq_ok]
    exact ⟨_, hshort, _, hmonth, rfl⟩
  | longMonth =>
    simp only [DateName.read, bind_eq_ok, pure_eq_ok]
    exact ⟨_, hlong, _, hmonth, rfl⟩
  | shortWeekday =>
    simp only [DateName.read, bind_eq_ok, pure_eq_ok]
    exact ⟨_, hshort', _, hday, rfl⟩
  | longWeekday =>
    simp only [DateName.read, bind_eq_ok, pure_eq_ok]
    exact ⟨_, hlong', _, hday, rfl⟩

theorem readAll_cons {c c' : DateClues} {cs rest : List Char}
    (h : item.read c cs = .ok (c', rest)) :
    readAll (item :: items) c cs = readAll items c' rest := by
  rw [readAll, h]
  rfl

/-- What an item needs to be read as it was written, before the others. -/
def AsWritten (d : Date) (rest : List DateItem) : DateItem → Prop
  | .number what padding => Legible d what ∧ Apart d what padding rest
  | .timeOfDay => False
  | _ => True

theorem readAll_asWritten (ha : Accepted (item :: items)) (h : AsWritten d items item)
    (said : List DateNumber) :
    readAll (item :: items) (cluesOf d said) (ending d (item :: items)) =
      readAll items (cluesOf d (item.clue?.toList ++ said)) (ending d items) := by
  have hproper := ha.proper item List.mem_cons_self
  cases item with
  | literal text =>
    rw [ending_cons (.literal text) rfl (begins_literal hproper).2]
    apply readAll_cons
    simp only [read, bind_eq_ok, pure_eq_ok]
    exact ⟨_, readLiteral_append text _, rfl⟩
  | blank text =>
    rw [← readAll_trimLeft ha.tail]
    apply readAll_cons
    have htrim : Text.trimLeft (ending d (.blank text :: items)) =
        Text.trimLeft (ending d items) := by
      rw [ending, Text.trimLeft_trimRight, ending, Text.trimLeft_trimRight]
      exact congrArg Text.trimRight (Text.trimLeft_blanks hproper _)
    rw [← htrim]
    rfl
  | number what padding =>
    obtain ⟨hlegible, hapart⟩ := h
    rw [ending_number]
    apply readAll_cons
    simp only [read, bind_eq_ok, pure_eq_ok]
    have hread := read_numeral (numeral_write d padding hlegible)
      (hapart.imp_right stopsDigits_ending.mpr)
    exact ⟨_, hread, _, set_cluesOf d said what, rfl⟩
  | name what =>
    rw [ending_cons (.name what) rfl (what.begins_write d).2]
    exact readAll_cons (read_name what said _)
  | timeOfDay => exact h.elim

variable (items) in
def clues : List DateNumber := items.filterMap clue?

theorem clues_cons (item : DateItem) (items : List DateItem) :
    clues (item :: items) = item.clue?.toList ++ clues items := by
  cases h : item.clue? <;> simp [clues, h]

theorem century_mem_clues_cons {what : DateNumber} {padding : Padding} :
    .century ∈ clues (number what padding :: items) ↔ what = .century ∨ .century ∈ clues items := by
  rw [clues_cons, List.mem_append]
  cases what <;> simp [clue?, DateNumber.clue]

/-- Items set off are read as they were written, if no century has three places. -/
theorem readAll_ending (ha : Accepted items) (hs : SetOff d items)
    (hl : .century ∈ clues items → Legible d .century) (said : List DateNumber) :
    readAll items (cluesOf d said) (ending d items) = .ok (cluesOf d (clues items ++ said)) := by
  induction items generalizing said with
  | nil => rfl
  | cons item items ih =>
    have hitem : AsWritten d items item ∧ SetOff d items := by
      cases item with
      | number what padding =>
        refine ⟨⟨?_, hs.1⟩, hs.2⟩
        rintro rfl
        exact hl (century_mem_clues_cons.mpr (Or.inl rfl)) rfl
      | timeOfDay => exact absurd List.mem_cons_self ha.noTime
      | _ => exact ⟨trivial, hs⟩
    have hrest : .century ∈ clues items → Legible d .century := by
      intro h
      apply hl
      rw [clues_cons]
      exact List.mem_append_right _ h
    rw [readAll_asWritten ha hitem.1, ih ha.tail hitem.2 hrest]
    -- The same numbers have been told, in another order.
    congr 1
    apply cluesOf_congr
    intro what
    rw [clues_cons]
    simp only [List.mem_append]
    exact or_left_comm.trans or_assoc.symm

theorem extends_of_read {c c' : DateClues} {cs rest : List Char}
    (h : item.read c cs = .ok (c', rest)) : c.Extends c' := by
  cases item with
  | literal text =>
    simp only [read, bind_eq_ok, pure_eq_ok] at h
    obtain ⟨_, -, h⟩ := h
    cases h
    exact .refl c
  | blank text =>
    cases h
    exact .refl c
  | number what padding =>
    simp only [read, bind_eq_ok, pure_eq_ok] at h
    obtain ⟨_, -, _, hset, h⟩ := h
    cases h
    exact extends_of_set hset
  | name what =>
    simp only [read, DateName.read] at h
    cases what with
    | shortMonth | longMonth =>
      simp only [bind_eq_ok, pure_eq_ok] at h
      obtain ⟨_, -, _, hset, h⟩ := h
      cases h
      exact extends_of_set hset
    | shortWeekday | longWeekday =>
      simp only [bind_eq_ok, pure_eq_ok] at h
      obtain ⟨_, -, _, hset, h⟩ := h
      cases h
      exact extends_of_setWeekday hset
  | timeOfDay => cases h

theorem extends_of_readAll (items : List DateItem) {c c' : DateClues} {cs : List Char}
    (h : readAll items c cs = .ok c') : c.Extends c' := by
  induction items generalizing c cs with
  | nil =>
    cases cs with
    | nil =>
      cases h
      exact .refl _
    | cons => cases h
  | cons item items ih =>
    simp only [readAll, bind_eq_ok] at h
    obtain ⟨_, hread, hrest⟩ := h
    exact (extends_of_read hread).trans (ih hrest)

/-- A number that runs on into others, or a century of three places, is not read as what the
date has. -/
theorem not_fits_of_readAll (ha : Accepted items) (hz : ZerosEnd d items)
    (hs : ¬ (SetOff d items ∧ (.century ∈ clues items → Legible d .century)))
    {said : List DateNumber} {c : DateClues}
    (h : readAll items (cluesOf d said) (ending d items) = .ok c) : ¬ c.Fits d := by
  induction items generalizing said with
  | nil => exact absurd ⟨trivial, nofun⟩ hs
  | cons item items ih =>
    -- The first item that is not read as written gives a clue that the date does not fit, and the
    -- items behind it only add clues.
    by_cases hitem : AsWritten d items item
    · rw [readAll_asWritten ha hitem] at h
      refine ih ha.tail ?_ ?_ h
      · cases item with
        | number what padding => exact hz.2
        | _ => exact hz
      · rintro ⟨hset, hl⟩
        apply hs
        cases item with
        | number what padding =>
          refine ⟨⟨hitem.2, hset⟩, fun hc => ?_⟩
          rcases century_mem_clues_cons.mp hc with rfl | hc
          · exact hitem.1
          · exact hl hc
        | name what =>
          refine ⟨hset, fun hc => hl ?_⟩
          rw [clues_cons] at hc
          cases what <;> simpa [clue?] using hc
        | timeOfDay => exact hitem.elim
        | _ => exact ⟨hset, hl⟩
    · intro hf
      cases item with
      | number what padding =>
        simp only [readAll, read, bind_eq_ok, pure_eq_ok] at h
        obtain ⟨_, ⟨⟨n, rest⟩, hread, c', hset, rfl⟩, hrest⟩ := h
        have hvalue := (fits_of_set hset ((extends_of_readAll items hrest).fits d hf)).2
        rw [ending_number] at hread
        by_cases hl : Legible d what
        · have hne : n ≠ what.value d := by
            have hapart : ¬ Apart d what padding items := fun h => hitem ⟨hl, h⟩
            refine ne_of_read_numeral (numeral_write d padding hl) ?_ ?_ hread
            · rwa [stopsDigits_ending]
            · intro hv hhead
              rcases hz.1 hv with hfull | hno
              · exact hapart (Or.inl hfull)
              · exact hno (Text.head?_trimRight hhead)
          rcases hvalue with hvalue | ⟨rfl, hn⟩
          · exact hne hvalue
          · -- Two digits of a century do not exceed the eight bits that are kept of it.
            have hlt := lt_of_read rfl hread
            have hw : tenPow DateNumber.century.width = 100 := rfl
            omega
        · obtain ⟨rfl, -⟩ : what = .century ∧ ¬ d.year / 100 % 256 < 100 :=
            Classical.not_imp.mp hl
          rw [read_illegible hl] at hread
          cases hread
      | timeOfDay => exact ha.noTime List.mem_cons_self
      | _ => exact hitem trivial

instance (what : DateNumber) (text : List Char) : Decidable (Full what text) :=
  decidable_of_iff ((Text.trimLeft text).length = what.width ∧
    (Text.trimLeft text).all Char.isDigit = true) (by simp [Full])

instance (rest : List Char) : Decidable (StopsDigits rest) :=
  decidable_of_iff ((rest.head?.all fun c => !c.isDigit) = true) (by
    cases rest <;> simp [StopsDigits])

instance (what : DateNumber) (padding : Padding) (rest : List DateItem) :
    Decidable (Apart d what padding rest) :=
  inferInstanceAs (Decidable (Full what (what.write padding d) ∨ StopsDigits (textAll d rest)))

instance decidableSetOff : (items : List DateItem) → Decidable (SetOff d items)
  | [] => .isTrue trivial
  | .number what padding :: rest =>
    have := decidableSetOff rest
    inferInstanceAs (Decidable (Apart d what padding rest ∧ SetOff d rest))
  | .literal _ :: rest | .blank _ :: rest | .name _ :: rest | .timeOfDay :: rest =>
    decidableSetOff rest

theorem zerosEnd_of_setOff (h : SetOff d items) : ZerosEnd d items := by
  induction items with
  | nil => trivial
  | cons item items ih =>
    cases item with
    | number what padding =>
      refine ⟨fun _ => h.1.imp_right fun hstop hzero => ?_, ih h.2⟩
      cases hstop '0' hzero
    | _ => exact ih h

end DateItem

end PermitPolicy.Calendar
