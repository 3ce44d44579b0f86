import PermitPolicy.Json.Value

/-! A cache of compiled patterns.  Each pattern text is compiled once, also one that is no
pattern; texts and values that are no strings leave the cache as it is. -/

namespace PermitPolicy
open Json
set_option autoImplicit false

def matchesPattern {M : Type} (compile : String → Option M) (isMatch : M → String → Bool)
    (fact value : Value) : Bool :=
  match fact, value with
  | .string text, .string pattern => (compile pattern).any fun m => isMatch m text
  | _, _ => false

structure PatternCache (M : Type) where
  compiled : Table (Option M)

namespace PatternCache
variable {M : Type}

def empty : PatternCache M := ⟨.empty⟩

def size (c : PatternCache M) : Nat := c.compiled.size

def fetch (compile : String → Option M) (c : PatternCache M) (pattern : String) :
    Option M × PatternCache M :=
  match c.compiled.get? pattern with
  | some m => (m, c)
  | none =>
    let m := compile pattern
    (m, ⟨c.compiled.insert pattern m⟩)

/-- Whether a text matches a pattern, by way of the cache. -/
def evaluate (compile : String → Option M) (isMatch : M → String → Bool) (c : PatternCache M)
    (fact value : Value) : Bool × PatternCache M :=
  match fact, value with
  | .string text, .string pattern =>
    let (m, c) := c.fetch compile pattern
    (m.any fun m => isMatch m text, c)
  | _, _ => (false, c)

end PatternCache
end PermitPolicy
