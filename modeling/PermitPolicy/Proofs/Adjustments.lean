import PermitPolicy.Proofs.PolicyFacts

/-! Policies under adjustment.  Clock, evaluator and date format of a policy may be set any number
of times, in any order.  A prepared policy builds the standard engine when its format is set, and
not at each validation; a mark tells it whether the evaluator is still its own.  Every sequence of
adjustments leads both to the same policy. -/

namespace PermitPolicy
open Calendar Json
set_option autoImplicit false

variable {Moment : Type}

/-- A call that adjusts a policy.  A clock tells the day of each moment, and a date format comes as
a text that may be refused. -/
inductive Adjustment (Moment : Type) where
  | clock (day : Moment → Date)
  | evaluator (e : Evaluator)
  | dateFormat (text : String)

namespace Adjustment

def clock? : Adjustment Moment → Option (Moment → Date)
  | .clock day => some day
  | _ => none

def evaluator? : Adjustment Moment → Option Evaluator
  | .evaluator e => some e
  | _ => none

def dateFormat? : Adjustment Moment → Option DateFormat
  | .dateFormat text => DateFormat.of? text
  | _ => none

/-- The last thing of a kind that is given, or else the first one there was. -/
def last {α : Type} (given : Adjustment Moment → Option α) (calls : List (Adjustment Moment))
    (first : α) : α :=
  (calls.filterMap given).getLast?.getD first

theorem last_cons {α : Type} (given : Adjustment Moment → Option α) (call : Adjustment Moment)
    (calls : List (Adjustment Moment)) (first : α) :
    last given (call :: calls) first = last given calls ((given call).getD first) := by
  unfold last
  cases h : given call with
  | none => rw [List.filterMap_cons_none h]; rfl
  | some a => rw [List.filterMap_cons_some h, List.getLast?_cons]; rfl

/-- What each call sets to the thing given, if it gives one, is at the end the last thing given. -/
theorem foldl_eq_last {σ α : Type} {step : σ → Adjustment Moment → σ} {field : σ → α}
    {given : Adjustment Moment → Option α}
    (hstep : ∀ s call, field (step s call) = (given call).getD (field s)) (s : σ)
    (calls : List (Adjustment Moment)) :
    field (calls.foldl step s) = last given calls (field s) := by
  induction calls generalizing s with
  | nil => rfl
  | cons call calls ih => rw [List.foldl_cons, ih, hstep, last_cons]

end Adjustment

namespace Policy

/-- The policy at a moment after a call; a refused date format leaves it as it was. -/
def adjust (now : Moment) (p : Policy) : Adjustment Moment → Policy
  | .clock day => p.withClock (day now)
  | .evaluator e => p.withEvaluator e
  | .dateFormat text =>
    match DateFormat.of? text with
    | some f => p.withDateFormat f
    | none => p

/-- Policies of a definition, of a document or of a text, on a day. -/
def BuiltOn (today : Date) (p : Policy) : Prop :=
  (∃ d, build d today = .ok p) ∨ (∃ v, ofValue v today = .ok p) ∨ ∃ text, ofText text today = .ok p

theorem build_eq_ok {d : Definition} {today : Date} {p : Policy} :
    build d today = .ok p ↔ d.defect? = none ∧ p = { definition := d, today } := by
  unfold build
  cases d.defect? <;> simp [eq_comm]

theorem build_of_ofValue {v : Value} {today : Date} {p : Policy} (h : ofValue v today = .ok p) :
    ∃ d, build d today = .ok p := by
  unfold ofValue at h
  split at h
  · cases h
  · split at h
    · cases h
    · split at h
      · cases h
      · exact ⟨_, h⟩

theorem builtOn_iff {today : Date} {p : Policy} :
    p.BuiltOn today ↔
      p.definition.defect? = none ∧ p = { definition := p.definition, today } := by
  constructor
  · have hbuild : ∀ d, build d today = .ok p →
        p.definition.defect? = none ∧ p = { definition := p.definition, today } := by
      intro d h
      obtain ⟨hd, rfl⟩ := build_eq_ok.mp h
      exact ⟨hd, rfl⟩
    rintro (⟨d, h⟩ | ⟨v, h⟩ | ⟨text, h⟩)
    · exact hbuild d h
    · obtain ⟨d, h⟩ := build_of_ofValue h
      exact hbuild d h
    · unfold ofText at h
      split at h
      · cases h
      · obtain ⟨d, h⟩ := build_of_ofValue h
        exact hbuild d h
  · rintro ⟨hd, hp⟩
    exact Or.inl ⟨p.definition, build_eq_ok.mpr ⟨hd, hp⟩⟩

end Policy

/-- A policy that has its evaluator ready, and a mark whether this is the standard engine. -/
structure PreparedPolicy (Moment : Type) where
  definition : Definition
  clock : Moment → Date
  dateFormat : DateFormat
  evaluator : Evaluator
  isStandard : Bool

namespace PreparedPolicy

def standardEvaluator (f : DateFormat) : Evaluator :=
  Engine.evaluator { operators := .standard f, allowUndefinedFacts := false }

def start (d : Definition) (system : Moment → Date) : PreparedPolicy Moment :=
  ⟨d, system, .standard, standardEvaluator .standard, true⟩

def withClock (r : PreparedPolicy Moment) (day : Moment → Date) : PreparedPolicy Moment :=
  { r with clock := day }

def withEvaluator (r : PreparedPolicy Moment) (e : Evaluator) : PreparedPolicy Moment :=
  { r with evaluator := e, isStandard := false }

/-- Builds the standard engine anew, but keeps an evaluator that was supplied. -/
def withDateFormat (r : PreparedPolicy Moment) (f : DateFormat) : PreparedPolicy Moment :=
  { r with
    dateFormat := f
    evaluator := if r.isStandard then standardEvaluator f else r.evaluator }

def adjust (r : PreparedPolicy Moment) : Adjustment Moment → PreparedPolicy Moment
  | .clock day => r.withClock day
  | .evaluator e => r.withEvaluator e
  | .dateFormat text =>
    match DateFormat.of? text with
    | some f => r.withDateFormat f
    | none => r

def choice (r : PreparedPolicy Moment) : EvaluatorChoice :=
  if r.isStandard then .standard else .supplied r.evaluator

def policyAt (now : Moment) (r : PreparedPolicy Moment) : Policy where
  definition := r.definition
  today := r.clock now
  dateFormat := r.dateFormat
  choice := r.choice

/-- The evaluator that is ready is the standard engine of the format, if the mark says so. -/
def InStep (r : PreparedPolicy Moment) : Prop :=
  r.isStandard = true → r.evaluator = standardEvaluator r.dateFormat

variable {r : PreparedPolicy Moment}

theorem inStep_start (d : Definition) (system : Moment → Date) : (start d system).InStep :=
  fun _ => rfl

theorem InStep.adjust (h : r.InStep) (call : Adjustment Moment) : (r.adjust call).InStep := by
  cases call with
  | clock day => exact h
  | evaluator e => exact nofun
  | dateFormat text =>
    simp only [PreparedPolicy.adjust]
    cases DateFormat.of? text with
    | none => exact h
    | some f =>
      intro hs
      exact if_pos hs

theorem InStep.adjustAll (h : r.InStep) (calls : List (Adjustment Moment)) :
    (calls.foldl PreparedPolicy.adjust r).InStep := by
  induction calls generalizing r with
  | nil => exact h
  | cons call calls ih => exact ih (h.adjust call)

def suppliedOr (e : Evaluator) (r : PreparedPolicy Moment) : Evaluator :=
  if r.isStandard then e else r.evaluator

theorem InStep.evaluator_eq (h : r.InStep) :
    r.evaluator = r.suppliedOr (standardEvaluator r.dateFormat) := by
  unfold suppliedOr
  split
  · exact h ‹_›
  · rfl

theorem InStep.evaluator_policyAt (h : r.InStep) (now : Moment) :
    (r.policyAt now).evaluator = r.evaluator := by
  rw [h.evaluator_eq]
  unfold policyAt choice suppliedOr Policy.evaluator
  cases r.isStandard <;> rfl

theorem suppliedOr_withDateFormat (e : Evaluator) (f : DateFormat) :
    (r.withDateFormat f).suppliedOr e = r.suppliedOr e := by
  unfold suppliedOr withDateFormat
  cases r.isStandard <;> rfl

theorem fields_adjust (r : PreparedPolicy Moment) (call : Adjustment Moment) :
    (r.adjust call).definition = r.definition ∧
      (r.adjust call).clock = call.clock?.getD r.clock ∧
      (r.adjust call).dateFormat = call.dateFormat?.getD r.dateFormat ∧
      ∀ e, (r.adjust call).suppliedOr e = call.evaluator?.getD (r.suppliedOr e) := by
  cases call with
  | clock day => exact ⟨rfl, rfl, rfl, fun _ => rfl⟩
  | evaluator e => exact ⟨rfl, rfl, rfl, fun _ => rfl⟩
  | dateFormat text =>
    simp only [adjust, Adjustment.dateFormat?]
    cases DateFormat.of? text with
    | none => exact ⟨rfl, rfl, rfl, fun _ => rfl⟩
    | some f => exact ⟨rfl, rfl, rfl, fun e => suppliedOr_withDateFormat e f⟩

theorem definition_adjustAll (r : PreparedPolicy Moment) (calls : List (Adjustment Moment)) :
    (calls.foldl adjust r).definition = r.definition := by
  induction calls generalizing r with
  | nil => rfl
  | cons call calls ih => rw [List.foldl_cons, ih, (r.fields_adjust call).1]

theorem policyAt_adjust (now : Moment) (r : PreparedPolicy Moment) (call : Adjustment Moment) :
    (r.adjust call).policyAt now = (r.policyAt now).adjust now call := by
  cases call with
  | clock day => rfl
  | evaluator e => rfl
  | dateFormat text =>
    simp only [adjust, Policy.adjust]
    cases DateFormat.of? text with
    | none => rfl
    | some f =>
      unfold policyAt choice withDateFormat
      cases r.isStandard <;> rfl

theorem policyAt_adjustAll (now : Moment) (r : PreparedPolicy Moment)
    (calls : List (Adjustment Moment)) :
    (calls.foldl adjust r).policyAt now = calls.foldl (Policy.adjust now) (r.policyAt now) := by
  induction calls generalizing r with
  | nil => rfl
  | cons call calls ih => rw [List.foldl_cons, List.foldl_cons, ih, policyAt_adjust]

/-- The evaluator at the end is the last one supplied, or else the standard engine of the format
at the end. -/
theorem evaluator_adjustAll (d : Definition) (system : Moment → Date)
    (calls : List (Adjustment Moment)) :
    let r := calls.foldl adjust (start d system)
    r.evaluator = Adjustment.last Adjustment.evaluator? calls (standardEvaluator r.dateFormat) := by
  intro r
  -- A format may replace the evaluator that is ready, but never one that was supplied.
  rw [((inStep_start d system).adjustAll calls).evaluator_eq]
  exact Adjustment.foldl_eq_last (fun s call => (fields_adjust s call).2.2.2 _) _ calls

end PreparedPolicy

namespace Policy
open PreparedPolicy

/-- However a policy was built and adjusted, it is the prepared policy of these calls: its
definition is the first one, its clock and format are the last ones given, and its evaluator is
the last one supplied or else the standard engine of the format that the facts are written in. -/
theorem adjusted_policy (system : Moment → Date) (now : Moment) (p : Policy)
    (hp : p.BuiltOn (system now)) (calls : List (Adjustment Moment)) :
    let q := calls.foldl (adjust now) p
    let r := calls.foldl PreparedPolicy.adjust (start p.definition system)
    (q = r.policyAt now ∧ q.evaluator = r.evaluator) ∧
      r.definition = p.definition ∧
      r.clock = Adjustment.last Adjustment.clock? calls system ∧
      r.dateFormat = Adjustment.last Adjustment.dateFormat? calls .standard ∧
      r.evaluator = Adjustment.last Adjustment.evaluator? calls
        (Engine.evaluator { operators := .standard r.dateFormat, allowUndefinedFacts := false }) ∧
      (OperatorSet.standard r.dateFormat).get? "dateLessThan" =
        some ⟨"dateLessThan", fun v => (readDate? r.dateFormat v).isSome,
          dateBefore r.dateFormat⟩ ∧
      ∀ d, (q.documentFacts d).get? Facts.daysInPermitYear =
        some (permitYearFact r.dateFormat
          ((Facts.completed d).descend? ["permitData", "startDate"])) := by
  intro q r
  have hstart : p = (start p.definition system).policyAt now := (builtOn_iff.mp hp).2
  have hq : q = r.policyAt now := by
    rw [policyAt_adjustAll, ← hstart]
  have hstep := (inStep_start p.definition system).adjustAll calls
  refine ⟨⟨hq, ?_⟩, definition_adjustAll _ calls, ?_, ?_, evaluator_adjustAll _ system calls,
    get?_dateLessThan r.dateFormat, ?_⟩
  · rw [hq]
    exact hstep.evaluator_policyAt now
  · exact Adjustment.foldl_eq_last (fun s call => (fields_adjust s call).2.1) _ calls
  · exact Adjustment.foldl_eq_last (fun s call => (fields_adjust s call).2.2.1) _ calls
  · intro d
    rw [hq]
    exact get?_daysInPermitYear (r.policyAt now) d

/-- An evaluator supplied between two formats, the last of which is refused; and the same formats
without it. -/
theorem adjusted_policy_between_formats :
    let silent : Evaluator := ⟨fun _ _ => {}⟩
    let p : Policy := { definition := { version := "1" }, today := default }
    let formats : List (Adjustment Unit) := [.dateFormat "%d.%m.%Y", .dateFormat "%H"]
    let calls : List (Adjustment Unit) :=
      [.dateFormat "%d.%m.%Y", .evaluator silent, .dateFormat "%H"]
    let q := calls.foldl (adjust ()) p
    let s := formats.foldl (adjust ()) p
    p.BuiltOn default ∧ q.evaluator = silent ∧ q.dateFormat.text = "%d.%m.%Y" ∧
      s.evaluator = standardEvaluator s.dateFormat ∧ s.dateFormat.text = "%d.%m.%Y" := by
  intro silent p formats calls q s
  have hp : p.BuiltOn default := builtOn_iff.mpr ⟨by decide, rfl⟩
  obtain ⟨⟨hq, hqe⟩, -, -, hqf, hsupplied, -⟩ := adjusted_policy (fun _ => default) () p hp calls
  obtain ⟨⟨hs, hse⟩, -, -, hsf, hstandard, -⟩ := adjusted_policy (fun _ => default) () p hp formats
  have hqformat : q.dateFormat = Adjustment.last Adjustment.dateFormat? calls .standard :=
    (congrArg Policy.dateFormat hq).trans hqf
  have hsformat : s.dateFormat = Adjustment.last Adjustment.dateFormat? formats .standard :=
    (congrArg Policy.dateFormat hs).trans hsf
  have hsevaluator : s.evaluator = standardEvaluator s.dateFormat :=
    hse.trans (hstandard.trans (congrArg standardEvaluator (congrArg Policy.dateFormat hs).symm))
  exact ⟨hp, hqe.trans hsupplied, (congrArg DateFormat.text hqformat).trans (by decide),
    hsevaluator, (congrArg DateFormat.text hsformat).trans (by decide)⟩

end Policy
end PermitPolicy
