import Mathlib.Data.List.Dedup
import PermitPolicy.Proofs.Entries
import PermitPolicy.Proofs.RuleDecision
import PermitPolicy.Proofs.StatefulRuns

/-! Compiled patterns that are kept.  The cache of the operator for patterns holds the compiled form
of each pattern seen and of no other, so whatever it has been asked before, it answers as if it had
compiled the pattern anew; and an engine or a policy with such an operator answers each request as
if it were its first. -/

namespace PermitPolicy
open Json Calendar
set_option autoImplicit false

namespace PatternCache
variable {M : Type} (compile : String → Option M) (isMatch : M → String → Bool)

/-- The pattern that a call looks up: there is one if the fact and the value are strings. -/
def patternOf? : (call : Value × Value) → Option String
  | (.string _, .string pattern) => some pattern
  | _ => none

def answer (call : Value × Value) : StateM (PatternCache M) Bool :=
  fun cache => cache.evaluate compile isMatch call.1 call.2

/-- The cache has the compiled forms of the patterns that were seen, and nothing else. -/
def HasSeen (cache : PatternCache M) (seen : List String) : Prop :=
  ∀ pattern, cache.compiled.get? pattern = if pattern ∈ seen then some (compile pattern) else none

theorem hasSeen_empty : HasSeen compile empty [] := fun _ => rfl

variable {compile} {cache : PatternCache M} {seen : List String}

theorem HasSeen.fetch (h : HasSeen compile cache seen) (pattern : String) :
    (cache.fetch compile pattern).1 = compile pattern ∧
      HasSeen compile (cache.fetch compile pattern).2 (seen ++ [pattern]) := by
  unfold PatternCache.fetch
  rw [h pattern]
  by_cases hp : pattern ∈ seen
  · rw [if_pos hp]
    refine ⟨rfl, fun other => ?_⟩
    have hmem : other ∈ seen ++ [pattern] ↔ other ∈ seen := by
      rw [List.mem_append, List.mem_singleton]
      exact ⟨fun hor => hor.elim id (fun heq => heq ▸ hp), .inl⟩
    simp only [hmem]
    exact h other
  · rw [if_neg hp]
    refine ⟨rfl, fun other => ?_⟩
    rw [Table.get?_insert, h other]
    by_cases heq : pattern = other
    · simp [heq]
    · simp [heq, Ne.symm heq]

theorem exists_text {call : Value × Value} {pattern : String}
    (h : patternOf? call = some pattern) : ∃ text, call = (.string text, .string pattern) := by
  obtain ⟨fact, value⟩ := call
  cases fact with
  | string text =>
    cases value with
    | string other =>
      obtain rfl : other = pattern := Option.some.inj h
      exact ⟨text, rfl⟩
    | _ => cases h
  | _ => cases h

theorem answer_of_no_pattern {call : Value × Value} (h : patternOf? call = none)
    (cache : PatternCache M) : (answer compile isMatch call).run cache = (false, cache) ∧
      matchesPattern compile isMatch call.1 call.2 = false := by
  obtain ⟨fact, value⟩ := call
  cases fact with
  | string text =>
    cases value with
    | string other => cases h
    | _ => exact ⟨rfl, rfl⟩
  | _ => exact ⟨rfl, rfl⟩

/-- One call gives the answer without a cache, and its pattern has been seen then. -/
theorem HasSeen.answer (h : HasSeen compile cache seen) (call : Value × Value) :
    ((answer compile isMatch call).run cache).1 = matchesPattern compile isMatch call.1 call.2 ∧
      HasSeen compile ((PatternCache.answer compile isMatch call).run cache).2
        (seen ++ (patternOf? call).toList) := by
  cases hp : patternOf? call with
  | none =>
    obtain ⟨hcache, hno⟩ := answer_of_no_pattern isMatch hp cache
    rw [hcache, hno, Option.toList_none, List.append_nil]
    exact ⟨rfl, h⟩
  | some pattern =>
    obtain ⟨text, rfl⟩ := exists_text hp
    obtain ⟨hcompiled, hseen⟩ := h.fetch pattern
    refine ⟨?_, hseen⟩
    have hanswer : ((PatternCache.answer compile isMatch (.string text, .string pattern)).run
        cache).1 = (cache.fetch compile pattern).1.any fun m => isMatch m text := rfl
    rw [hanswer, hcompiled]
    rfl

theorem HasSeen.answers (h : HasSeen compile cache seen) (calls : List (Value × Value)) :
    ((calls.mapM (PatternCache.answer compile isMatch)).run cache).1 =
        calls.map (fun call => matchesPattern compile isMatch call.1 call.2) ∧
      HasSeen compile ((calls.mapM (PatternCache.answer compile isMatch)).run cache).2
        (seen ++ calls.filterMap patternOf?) := by
  -- The invariant is carried by the patterns seen before the first of the calls.
  induction calls generalizing cache seen with
  | nil => exact ⟨rfl, by rwa [List.filterMap_nil, List.append_nil]⟩
  | cons call calls ih =>
    obtain ⟨hfirst, hseen⟩ := h.answer isMatch call
    obtain ⟨hrest, hall⟩ := ih hseen
    have hpatterns : (call :: calls).filterMap patternOf? =
        (patternOf? call).toList ++ calls.filterMap patternOf? := by
      rw [List.filterMap_cons]
      cases patternOf? call <;> rfl
    rw [List.mapM_cons, hpatterns, ← List.append_assoc, List.map_cons, ← hfirst, ← hrest]
    exact ⟨rfl, hall⟩

theorem HasSeen.size (h : HasSeen compile cache seen) : cache.size = seen.dedup.length := by
  have hkeys : (cache.compiled.entries.map (·.1)).Nodup := cache.compiled.sorted.nodup
  have hperm : (cache.compiled.entries.map (·.1)).Perm seen.dedup := by
    rw [List.perm_ext_iff_of_nodup hkeys (List.nodup_dedup seen)]
    intro pattern
    rw [← Entries.isSome_get?_iff, List.mem_dedup]
    have hp : Entries.get? pattern cache.compiled.entries = _ := h pattern
    rw [hp]
    split <;> simp [*]
  rw [← hperm.length_eq, List.length_map]
  rfl

/-- The cache holds no wrong entry. -/
def Sound (compile : String → Option M) (cache : PatternCache M) : Prop :=
  ∃ seen, HasSeen compile cache seen

theorem sound_empty : Sound compile empty := ⟨[], hasSeen_empty compile⟩

end PatternCache

/-- An operator as it is registered: one that keeps nothing, or the one for patterns. -/
inductive Registration where
  | stateless (op : Operator)
  | patterns

namespace Registration
variable {M : Type} (compile : String → Option M) (isMatch : M → String → Bool)

def caching : Registration → StatefulOperator (PatternCache M)
  | .stateless op => .ofOperator op
  | .patterns => .patterns compile isMatch

def plain : Registration → Operator
  | .stateless op => op
  | .patterns => ⟨"regex", Value.isString, matchesPattern compile isMatch⟩

theorem follows_caching (r : Registration) :
    (r.caching compile isMatch).Follows (PatternCache.Sound compile) (r.plain compile isMatch) := by
  cases r with
  | stateless op => exact StatefulOperator.follows_ofOperator op
  | patterns =>
    refine ⟨rfl, fun fact value cache hsound => ?_⟩
    obtain ⟨seen, hseen⟩ := hsound
    obtain ⟨hanswer, hnext⟩ := hseen.answer isMatch (fact, value)
    exact ⟨hanswer, _, hnext⟩

def cachingEngine (registered : List Registration) (allowUndefinedFacts : Bool) :
    StatefulEngine (PatternCache M) :=
  .ofOperators (registered.map (caching compile isMatch)) allowUndefinedFacts

def plainEngine (registered : List Registration) (allowUndefinedFacts : Bool) : Engine :=
  { operators := .ofOperators (registered.map (plain compile isMatch)), allowUndefinedFacts }

theorem follows_cachingEngine (registered : List Registration) (allowUndefinedFacts : Bool) :
    (cachingEngine compile isMatch registered allowUndefinedFacts).Follows
      (PatternCache.Sound compile)
      (plainEngine compile isMatch registered allowUndefinedFacts) := by
  apply StatefulEngine.follows_ofOperators registered
  · rintro (op | _)
    · rfl
    · rfl
  · exact follows_caching compile isMatch

def standard (format : DateFormat) : List Registration :=
  (OperatorSet.builtin ++ OperatorSet.custom format).map fun op =>
    if op.name = "regex" then .patterns else .stateless op

/-- The engine of a policy without an evaluator of its own, with its cache. -/
def standardEngine (format : DateFormat) : StatefulEngine (PatternCache Pattern.Node) :=
  cachingEngine Pattern.compile? Pattern.Node.occursIn (standard format) false

theorem follows_standardEngine (format : DateFormat) : (standardEngine format).Follows
    (PatternCache.Sound Pattern.compile?) (Policy.standardEngine format) :=
  follows_cachingEngine Pattern.compile? Pattern.Node.occursIn (standard format) false

end Registration

/-- What an engine may be asked: about a rule, about rule sets, or, for a policy that has it for its
evaluator, about a document. -/
inductive Request where
  | rule (facts : Facts) (r : Rule)
  | ruleSets (facts : Facts) (sets : List (List Rule))
  | document (p : Policy) (document : Value)

inductive Reply where
  | decision (outcome : Except EvaluationError Bool)
  | run (run : EngineRun)
  | report (report : Report)

def StatefulEngine.reply {S : Type} (e : StatefulEngine S) : Request → StateM S Reply
  | .rule facts r => return .decision (← e.runRule facts r)
  | .ruleSets facts sets => return .run (← e.evaluate facts sets)
  | .document p d => return .report (← e.validateDocument p d)

def Engine.reply (e : Engine) : Request → Reply
  | .rule facts r => .decision (e.runRule facts r)
  | .ruleSets facts sets => .run (e.evaluate facts sets)
  | .document p d => .report ((p.withEvaluator e.evaluator).validateDocument d)

theorem StatefulEngine.Follows.reply {S : Type} {inv : S → Prop} {e : StatefulEngine S}
    {plain : Engine} (h : e.Follows inv plain) (request : Request) :
    Gives inv (e.reply request) (plain.reply request) := by
  cases request with
  | rule facts r => exact .bind (h.runRule facts r) (.pure _)
  | ruleSets facts sets => exact .bind (h.evaluate facts sets) (.pure _)
  | document p d => exact .bind (h.validateDocument p d) (.pure _)

theorem Policy.withEvaluator_standard {p : Policy} (h : p.choice = .standard) (d : Value) :
    (p.withEvaluator (standardEngine p.dateFormat).evaluator).validateDocument d =
      p.validateDocument d := by
  have hrun : (p.withEvaluator (standardEngine p.dateFormat).evaluator).run d = p.run d := by
    rw [run, run, p.evaluator_standard h]
    rfl
  unfold validateDocument
  rw [hrun]
  rfl

/-- What has been kept makes no difference.  Each call of the operator for patterns is answered as
without a cache, and the cache counts the distinct patterns of the calls with two strings; each
request to an engine or a policy is answered as by one that is new, whatever was asked before. -/
theorem pattern_history_immaterial {M : Type} (compile : String → Option M)
    (isMatch : M → String → Bool) :
    (∀ calls : List (Value × Value),
        let run := (calls.mapM (PatternCache.answer compile isMatch)).run .empty
        run.1 = calls.map (fun call => matchesPattern compile isMatch call.1 call.2) ∧
          run.2.size = (calls.filterMap PatternCache.patternOf?).dedup.length) ∧
      (∀ call cache, PatternCache.patternOf? call = none →
        ((PatternCache.answer compile isMatch call).run cache).2 = cache) ∧
      (∀ registered allow, ∀ requests : List Request,
        let e := Registration.cachingEngine compile isMatch registered allow
        ((requests.mapM e.reply).run .empty).1 =
          requests.map fun request => ((e.reply request).run .empty).1) ∧
      (∀ registered allow request,
        (((Registration.cachingEngine compile isMatch registered allow).reply request).run
            .empty).1 =
          (Registration.plainEngine compile isMatch registered allow).reply request) ∧
      ∀ p : Policy, p.choice = .standard → ∀ documents : List Value,
        let e := Registration.standardEngine p.dateFormat
        ((documents.mapM (e.validateDocument p)).run .empty).1 =
          documents.map p.validateDocument := by
  have hreply : ∀ registered allow request, Gives (PatternCache.Sound compile)
      ((Registration.cachingEngine compile isMatch registered allow).reply request)
      ((Registration.plainEngine compile isMatch registered allow).reply request) :=
    fun registered allow request =>
      (Registration.follows_cachingEngine compile isMatch registered allow).reply request
  have hfresh : ∀ registered allow request,
      (((Registration.cachingEngine compile isMatch registered allow).reply request).run
          .empty).1 =
        (Registration.plainEngine compile isMatch registered allow).reply request :=
    fun registered allow request =>
      (hreply registered allow request .empty PatternCache.sound_empty).1
  refine ⟨?_, ?_, ?_, hfresh, ?_⟩
  · intro calls
    obtain ⟨hanswers, hseen⟩ := (PatternCache.hasSeen_empty compile).answers isMatch calls
    exact ⟨hanswers, hseen.size⟩
  · intro call cache hnone
    exact congrArg Prod.snd (PatternCache.answer_of_no_pattern isMatch hnone cache).1
  · intro registered allow requests e
    obtain ⟨hreplies, -⟩ :=
      Gives.mapM (hreply registered allow) requests .empty PatternCache.sound_empty
    rw [hreplies]
    exact List.map_congr_left fun request _ => (hfresh registered allow request).symm
  · intro p hp documents e
    have hfollows := Registration.follows_standardEngine p.dateFormat
    obtain ⟨hreports, -⟩ :=
      Gives.mapM (hfollows.validateDocument p) documents .empty PatternCache.sound_empty
    rw [hreports]
    exact List.map_congr_left fun document _ => Policy.withEvaluator_standard hp document

/-- A pattern that is asked for twice, one that does not compile, and a fact that is no string. -/
theorem pattern_history_immaterial_invalid_pattern :
    let compile (pattern : String) : Option String := if pattern = "[" then none else some pattern
    let isMatch (pattern text : String) : Bool := pattern = text
    let calls : List (Value × Value) := [(.string "b", .string "a"), (.string "a", .string "["),
      (.int 4, .string "b"), (.string "a", .string "a")]
    let run := (calls.mapM (PatternCache.answer compile isMatch)).run .empty
    let p : Policy := { definition := { version := "1" }, today := default }
    let documents : List Value := [.null, .object [("permitType", .string "TROS")], .null]
    run.1 = [false, false, false, true] ∧ run.2.size = 2 ∧
      PatternCache.patternOf? (.int 4, .string "b") = none ∧
      ((PatternCache.answer compile isMatch (.int 4, .string "b")).run run.2).2 = run.2 ∧
      p.choice = .standard ∧
      ((documents.mapM ((Registration.standardEngine p.dateFormat).validateDocument p)).run
        .empty).1 = documents.map p.validateDocument := by
  intro compile isMatch calls run p documents
  obtain ⟨hcalls, hnone, -, -, hdocuments⟩ := pattern_history_immaterial compile isMatch
  obtain ⟨hanswers, hsize⟩ := hcalls calls
  exact ⟨hanswers.trans (by decide), hsize.trans (by decide), rfl, hnone _ run.2 rfl, rfl,
    hdocuments p rfl documents⟩

end PermitPolicy
