import PermitPolicy.Calendar.Read
import PermitPolicy.Operator.Basic
import PermitPolicy.Operator.PatternCache
import PermitPolicy.Pattern.Resolve

/-! The standard operators: comparisons of numbers, membership in arrays, and the operators
for permits, of which `dateLessThan` reads dates in the format of the policy. -/

namespace PermitPolicy
open Json Calendar
set_option autoImplicit false

/-- Equality of values: numbers by the double nearest to them, all else by structure. -/
def equalValues (a b : Value) : Bool :=
  match a.units?, b.units? with
  | some x, some y => x == y
  | _, _ => a.same b

/-- Compares two numbers by the doubles nearest to them. -/
def compareNumbers (test : Int → Int → Bool) (a b : Value) : Bool :=
  match a.units?, b.units? with
  | some x, some y => test x y
  | _, _ => false

def hasElement (array needle : Value) : Bool :=
  match array with
  | .array items => items.any fun item => equalValues item needle
  | _ => false

def isElement (needle array : Value) : Bool :=
  match array with
  | .array items => items.any fun item => equalValues needle item
  | _ => false

def isNoElement (needle array : Value) : Bool :=
  match array with
  | .array items => !items.any fun item => equalValues needle item
  | _ => false

/-- Whether a text has a number of characters at least, blanks at its ends apart. -/
def hasLength (fact value : Value) : Bool :=
  match fact, value.units? with
  | .string text, some least =>
    least ≤ (Number.int (Text.trimChars text.toList).length).units
  | _, _ => false

def readDate? (format : DateFormat) (v : Value) : Option Date := v.string?.bind format.read?

def dateBefore (format : DateFormat) (fact value : Value) : Bool :=
  match readDate? format fact, readDate? format value with
  | some a, some b => a.before b
  | _, _ => false

def regexMatches (fact value : Value) : Bool :=
  matchesPattern Pattern.compile? Pattern.Node.occursIn fact value

namespace OperatorSet

def anyValue (_ : Value) : Bool := true

def builtin : List Operator := [
  ⟨"equal", anyValue, equalValues⟩,
  ⟨"notEqual", anyValue, fun a b => !equalValues a b⟩,
  ⟨"lessThan", Value.isNumber, compareNumbers fun x y => x < y⟩,
  ⟨"lessThanInclusive", Value.isNumber, compareNumbers fun x y => x ≤ y⟩,
  ⟨"greaterThan", Value.isNumber, compareNumbers fun x y => y < x⟩,
  ⟨"greaterThanInclusive", Value.isNumber, compareNumbers fun x y => y ≤ x⟩,
  ⟨"in", anyValue, isElement⟩,
  ⟨"notIn", anyValue, isNoElement⟩,
  ⟨"contains", Value.isArray, hasElement⟩,
  ⟨"doesNotContain", Value.isArray, fun a b => !hasElement a b⟩]

def custom (format : DateFormat) : List Operator := [
  ⟨"stringMinimumLength", Value.isString, hasLength⟩,
  ⟨"dateLessThan", fun v => (readDate? format v).isSome, dateBefore format⟩,
  ⟨"regex", Value.isString, regexMatches⟩]

def standard (format : DateFormat) : OperatorSet := ofOperators (builtin ++ custom format)

theorem get?_standard {format : DateFormat} {name : String} {accepts : Value → Bool}
    {evaluate : Value → Value → Bool}
    (h : (⟨name, accepts, evaluate⟩ : Operator) ∈ builtin ++ custom format) :
    (standard format).get? name = some ⟨name, accepts, evaluate⟩ := by
  have hnames : (builtin ++ custom format).map Operator.name =
      ["equal", "notEqual", "lessThan", "lessThanInclusive", "greaterThan",
        "greaterThanInclusive", "in", "notIn", "contains", "doesNotContain",
        "stringMinimumLength", "dateLessThan", "regex"] := rfl
  apply get?_ofOperators_of_mem _ h
  rw [hnames]
  decide

end OperatorSet
end PermitPolicy
