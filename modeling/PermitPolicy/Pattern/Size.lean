import PermitPolicy.Basic
import PermitPolicy.Pattern.Machine

/-! The size of a pattern's automaton over the bytes of a text, in bytes.  A pattern whose
automaton is too large is refused. -/

namespace PermitPolicy.Pattern
open Text (CharSet Span)
set_option autoImplicit false

/-- The automaton of a pattern may take ten megabytes. -/
def sizeLimit : Nat := 10 * twoPow 20

def stateSize : Nat := 32

abbrev ByteRanges := List (Nat × Nat)

def utf8Bytes (n : Nat) : List Nat :=
  if n < 0x80 then [n]
  else if n < 0x800 then [0xC0 + n / 64, 0x80 + n % 64]
  else if n < 0x10000 then [0xE0 + n / 4096, 0x80 + n / 64 % 64, 0x80 + n % 64]
  else [0xF0 + n / 262144, 0x80 + n / 4096 % 64, 0x80 + n / 64 % 64, 0x80 + n % 64]

/-- The two parts of a span that is not yet one sequence of byte ranges: the parts have
fewer lengths, or fewer distinct leading bytes. -/
def splitSpan? (r : Span) : Option (Span × Span) :=
  let lengthCut := [0x7F, 0x7FF, 0xFFFF].find? fun m => r.low ≤ m && m < r.high
  match lengthCut with
  | some m => some (⟨r.low, m⟩, ⟨m + 1, r.high⟩)
  | none =>
    if r.high < 0x80 then none
    else
      [64, 4096, 262144].findSome? fun m =>
        if r.low / m = r.high / m then none
        else if r.low % m ≠ 0 then
          let cut := r.low / m * m + m - 1
          some (⟨r.low, cut⟩, ⟨cut + 1, r.high⟩)
        else if r.high % m ≠ m - 1 then
          let cut := r.high / m * m
          some (⟨r.low, cut - 1⟩, ⟨cut, r.high⟩)
        else none

/-- The byte range sequences of a span, in order.  A span is cut at most twice for each
length and each place of a byte. -/
def byteRanges : (fuel : Nat) → Span → List ByteRanges
  | 0, r => [(utf8Bytes r.low).zip (utf8Bytes r.high)]
  | fuel + 1, r =>
    match splitSpan? r with
    | some (a, b) => byteRanges fuel a ++ byteRanges fuel b
    | none => [(utf8Bytes r.low).zip (utf8Bytes r.high)]

def commonLength : ByteRanges → ByteRanges → Nat
  | a :: as, b :: bs => if a = b then commonLength as bs + 1 else 0
  | _, _ => 0

/-- The size of the states for sequences, each sharing those of its common start with the
one before, and of a branch to each sequence. -/
def sequencesSize (previous : ByteRanges) : List ByteRanges → Nat
  | [] => 0
  | s :: rest =>
    stateSize * (s.length - commonLength previous s) + 4 + sequencesSize s rest

def withoutSurrogates (s : CharSet) : CharSet := s.diff (.ofSpans [⟨0xD800, 0xDFFF⟩])

def charsSize (s : CharSet) : Nat :=
  match (withoutSurrogates s).spans with
  | [] => stateSize
  | [r] =>
    if r.low = r.high then stateSize * (utf8Bytes r.low).length else size [r]
  | spans => size spans
where
  size (spans : List Span) : Nat :=
    if spans.all (·.high < 0x80) then 2 * stateSize + 8 * spans.length
    else 2 * stateSize + sequencesSize [] (spans.flatMap (byteRanges 16))

def branchSize (count : Nat) : Nat := stateSize + 4 * count

namespace Node

mutual
def size : Node → Nat
  | .empty | .look _ => stateSize
  | .chars set => charsSize set
  | .seq items => sizeOfAll items
  | .alt branches => branchSize branches.length + stateSize + sizeOfAll branches
  | .loop inner least none => size inner * max least 1 + branchSize 2
  | .loop inner least (some most) =>
    size inner * most + (most - least) * branchSize 2 + stateSize
  | .capture inner => size inner + 2 * stateSize

def sizeOfAll : List Node → Nat
  | [] => 0
  | n :: rest => size n + sizeOfAll rest
end

end Node
end PermitPolicy.Pattern
