/-! Sets of characters as lists of code point ranges.  The set operations are defined by
membership of the two lists of ranges, swept in ascending order. -/

namespace PermitPolicy.Text
set_option autoImplicit false

structure Span where
  low : Nat
  high : Nat
deriving DecidableEq, Repr

/-- Spans in ascending order that neither meet nor touch. -/
structure CharSet where
  spans : List Span
deriving DecidableEq, Inhabited, Repr

namespace CharSet

def lastScalar : Nat := 0x10FFFF

def empty : CharSet := ⟨[]⟩

def full : CharSet := ⟨[⟨0, lastScalar⟩]⟩

/-- Whether ascending spans hold a code point; the first span above it ends the search. -/
def inSpans (n : Nat) : List Span → Bool
  | [] => false
  | r :: rest => if n < r.low then false else if n ≤ r.high then true else inSpans n rest

def containsCode (s : CharSet) (n : Nat) : Bool := inSpans n s.spans

def contains (s : CharSet) (c : Char) : Bool := s.containsCode c.toNat

/-- The set of the spans given in any order; a span whose ends are out of order is empty. -/
def ofSpans (spans : List Span) : CharSet :=
  let proper := spans.filter fun r => r.low ≤ r.high
  -- a span joins all the later ones it reaches, so the highest ends must come first
  let ordered := proper.mergeSort fun a b => a.low < b.low || (a.low == b.low && b.high ≤ a.high)
  ⟨absorb ordered⟩
where
  absorb : List Span → List Span
    | [] => []
    | r :: rest => go r rest
  go (r : Span) : List Span → List Span
    | [] => [r]
    | q :: qs =>
      if q.low ≤ r.high + 1 then go ⟨r.low, max r.high q.high⟩ qs else r :: go q qs

def single (c : Char) : CharSet := ⟨[⟨c.toNat, c.toNat⟩]⟩

def range (low high : Char) : CharSet := ofSpans [⟨low.toNat, high.toNat⟩]

def ofList (cs : List Char) : CharSet := ofSpans (cs.map fun c => ⟨c.toNat, c.toNat⟩)

def union (a b : CharSet) : CharSet := ofSpans (a.spans ++ b.spans)

def gaps (start : Nat) : List Span → List Span
  | [] => if start ≤ lastScalar then [⟨start, lastScalar⟩] else []
  | r :: rest =>
    if start < r.low then ⟨start, r.low - 1⟩ :: gaps (r.high + 1) rest
    else gaps (r.high + 1) rest

def compl (s : CharSet) : CharSet := ⟨gaps 0 s.spans⟩

def inter (a b : CharSet) : CharSet :=
  ofSpans (a.spans.flatMap fun r => b.spans.filterMap fun q =>
    let low := max r.low q.low
    let high := min r.high q.high
    if low ≤ high then some ⟨low, high⟩ else none)

def diff (a b : CharSet) : CharSet := a.inter b.compl

def symmDiff (a b : CharSet) : CharSet := (a.union b).diff (a.inter b)

def hexValue (c : Char) : Nat :=
  if c.isDigit then c.toNat - '0'.toNat else c.toNat - 'a'.toNat + 10

def hexNumber (cs : List Char) : Nat := cs.foldl (fun n c => n * 16 + hexValue c) 0

def words (line : String) : List (List Char) :=
  (line.toList.splitBy fun a b => (a = ' ') = (b = ' ')).filter fun w => w.head? ≠ some ' '

def spanOfWord (word : List Char) : Span :=
  match word.span (· ≠ '-') with
  | (low, []) => ⟨hexNumber low, hexNumber low⟩
  | (low, _ :: high) => ⟨hexNumber low, hexNumber high⟩

def ofTable (lines : List String) : CharSet :=
  ⟨lines.flatMap fun line => (words line).map spanOfWord⟩

end CharSet
end PermitPolicy.Text
