import PermitPolicy.Proofs.ReadBack

/-! Writing never fails.  An item of a time of day is written by no date and every other item by
each of them, so a format that writes the trial day writes every date.  Two of the facts of a
document are dates in the format, the day of validation and the last day of the permit, and so the
facts can be built for every document and day. -/

namespace PermitPolicy
open Json Calendar
set_option autoImplicit false

namespace Calendar

theorem DateItem.isSome_writeAll?_iff (d : Date) (items : List DateItem) :
    (writeAll? d items).isSome ↔ .timeOfDay ∉ items := by
  constructor
  · exact timeOfDay_not_mem d
  · intro h
    rw [writeAll?_eq d h]
    rfl

theorem DateFormat.isSome_of?_iff (text : String) :
    (of? text).isSome ↔ Text.isAllBlank text = false ∧
      ∃ items, DateItem.ofText? text.toList = some items ∧ .timeOfDay ∉ items := by
  unfold of?
  split
  · rename_i hitems
    simp [hitems]
  · rename_i items hitems
    simp only [DateItem.isSome_writeAll?_iff, hitems, Option.some.injEq, exists_eq_left']
    split <;> simp [*]

/-- Every format is the one that its text is accepted as. -/
theorem DateFormat.of?_text (f : DateFormat) : of? f.text = some f := by
  unfold of?
  split
  · rename_i hnone
    cases f.ofText.symm.trans hnone
  · rename_i items hitems
    obtain rfl : f.items = items := Option.some.inj (f.ofText.symm.trans hitems)
    rw [dif_pos ⟨f.notBlank, f.writesTrialDay⟩]

end Calendar

namespace Facts

theorem dateFact?_eq (format : DateFormat) (date : Option Date) :
    dateFact? format date = some (.ofOption (fun d => .string (format.write d)) date) := by
  cases date with
  | none => rfl
  | some d =>
    rw [dateFact?, format.write?_eq]
    rfl

theorem ofDocument?_eq (document : Value) (today : Date) (format : DateFormat) :
    ofDocument? document today format = some (ofDocument document today format) := by
  simp only [ofDocument?, dateFact?_eq]
  rfl

theorem get?_expiryDate (document : Value) (today : Date) (format : DateFormat) :
    (ofDocument document today format).get? expiryDate =
      some (.ofOption (fun d => .string (format.write d))
        ((startDate? format (completed document)).bind fun start =>
          (duration? (completed document)).bind (expiryDate? start))) := by
  unfold ofDocument
  simp only [Table.get?_insert]
  rfl

end Facts

namespace Calendar

/-- A text is accepted as a format exactly if it is not blank and well formed and every date can be
written in it: that the trial day is written is enough, since whether items are written depends on
them alone.  In an accepted format no date of a document's facts is left unwritten. -/
theorem accepted_writes_every_date (text : String) :
    (∀ (items : List DateItem) (d e : Date),
        (DateItem.writeAll? d items).isSome = (DateItem.writeAll? e items).isSome) ∧
      ((DateFormat.of? text).isSome ↔ Text.isAllBlank text = false ∧
        ∃ items, DateItem.ofText? text.toList = some items ∧
          ∀ d, (DateItem.writeAll? d items).isSome) ∧
      ∀ f, DateFormat.of? text = some f →
        (∀ d, ∃ written, f.write? d = some written) ∧
          ∀ document today, Facts.ofDocument? document today f =
            some (Facts.ofDocument document today f) := by
  refine ⟨?_, ?_, ?_⟩
  · intro items d e
    rw [Bool.eq_iff_iff, DateItem.isSome_writeAll?_iff, DateItem.isSome_writeAll?_iff]
  · rw [DateFormat.isSome_of?_iff]
    simp only [DateItem.isSome_writeAll?_iff, forall_const]
  · intro f hf
    exact ⟨fun d => ⟨_, f.write?_eq d⟩, fun document today => Facts.ofDocument?_eq document today f⟩

/-- The month by its name, the day filled up with a blank, and the year. -/
def DateFormat.named : DateFormat where
  text := "%B %e, %Y"
  items := [.name .longMonth, .blank [' '], .number .day .blanks, .literal [','], .blank [' '],
    .number .year .zeros]
  ofText := by decide
  notBlank := by decide
  writesTrialDay := by decide

/-- The first day of the range, and a permit that ends on the last one. -/
theorem accepted_writes_every_date_named :
    let first : Date := ⟨-262143, 1, 1, by decide⟩
    let d : Value := .object [("permitData",
      .object [("permitDuration", .int 2), ("startDate", .string "December 30, +262142")])]
    DateFormat.of? "%B %e, %Y" = some .named ∧
      DateFormat.named.write? first = some "January  1, -262143" ∧
      ∃ facts, Facts.ofDocument? d first .named = some facts ∧
        facts.get? Facts.expiryDate = some (.string "December 31, +262142") := by
  intro first d
  have hf : DateFormat.of? "%B %e, %Y" = some .named := DateFormat.of?_text .named
  obtain ⟨-, -, haccepted⟩ := accepted_writes_every_date "%B %e, %Y"
  obtain ⟨hdates, hfacts⟩ := haccepted .named hf
  obtain ⟨written, hwritten⟩ := hdates first
  have hvalue : DateFormat.named.write? first = some "January  1, -262143" := by decide
  obtain rfl : "January  1, -262143" = written := Option.some.inj (hvalue.symm.trans hwritten)
  refine ⟨hf, hwritten, _, hfacts d first, ?_⟩
  rw [Facts.get?_expiryDate]
  decide

end Calendar
end PermitPolicy
