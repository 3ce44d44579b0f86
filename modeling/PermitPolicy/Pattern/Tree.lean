/-! Patterns as they are written.  A tree keeps the flags where they stand; what a flag
means for the pieces after it is settled when the tree is resolved. -/

namespace PermitPolicy.Pattern
set_option autoImplicit false

inductive Flag where
  | ignoreCase | multiLine | dotAll | swapGreed | unicode | carriageReturn | extended
deriving DecidableEq

structure FlagChange where
  on : List Flag
  off : List Flag
deriving DecidableEq

/-- What a change makes of a flag, if it names it. -/
def FlagChange.state? (c : FlagChange) (f : Flag) : Option Bool :=
  if c.on.contains f then some true
  else if c.off.contains f then some false
  else none

inductive Anchor where
  | lineStart | lineEnd | textStart | textEnd
  | wordBoundary | notWordBoundary
  | wordStart | wordEnd | wordStartHalf | wordEndHalf
deriving DecidableEq

inductive LetterClass where
  | digit | space | word
deriving DecidableEq

inductive PosixClass where
  | alnum | alpha | ascii | blank | cntrl | digit | graph | lower | print | punct | space
  | upper | word | xdigit
deriving DecidableEq

inductive PropertyQuery where
  | name (name : String)
  | value (property value : String)
deriving DecidableEq

/-- A character of a pattern; `byte` marks one written as two hexadecimal digits. -/
structure Literal where
  char : Char
  byte : Bool
deriving DecidableEq

inductive SetOperator where
  | intersection | difference | symmetricDifference
deriving DecidableEq

inductive SetTree where
  | literal (c : Literal)
  | range (low high : Literal)
  | posix (what : PosixClass) (negated : Bool)
  | letter (what : LetterClass) (negated : Bool)
  | property (query : PropertyQuery) (negated : Bool)
  | bracketed (negated : Bool) (inner : SetTree)
  | union (items : List SetTree)
  | binary (operator : SetOperator) (left right : SetTree)

instance : Inhabited SetTree := ⟨.union []⟩

inductive Tree where
  | empty
  | flags (change : FlagChange)
  | literal (c : Literal)
  | dot
  | anchor (a : Anchor)
  | letter (what : LetterClass) (negated : Bool)
  | property (query : PropertyQuery) (negated : Bool)
  | set (negated : Bool) (inner : SetTree)
  | repetition (inner : Tree) (least : Nat) (most : Option Nat)
  | capture (inner : Tree)
  | group (change : FlagChange) (inner : Tree)
  | concat (items : List Tree)
  | alternation (branches : List Tree)

instance : Inhabited Tree := ⟨.empty⟩

namespace SetTree

mutual
def depth : SetTree → Nat
  | .bracketed _ inner => depth inner + 1
  | .union [] => 0
  | .union items => depthOfAll items + 1
  | .binary _ left right => max (depth left) (depth right) + 1
  | _ => 0

def depthOfAll : List SetTree → Nat
  | [] => 0
  | t :: rest => max (depth t) (depthOfAll rest)
end

def ofItems : List SetTree → SetTree
  | [t] => t
  | items => .union items

end SetTree

namespace Tree

mutual
def depth : Tree → Nat
  | .set _ inner => inner.depth + 1
  | .repetition inner _ _ => depth inner + 1
  | .capture inner => depth inner + 1
  | .group _ inner => depth inner + 1
  | .concat items => depthOfAll items + 1
  | .alternation branches => depthOfAll branches + 1
  | _ => 0

def depthOfAll : List Tree → Nat
  | [] => 0
  | t :: rest => max (depth t) (depthOfAll rest)
end

def ofPieces : List Tree → Tree
  | [] => .empty
  | [t] => t
  | pieces => .concat pieces

def ofBranches : List Tree → Tree
  | [t] => t
  | branches => .alternation branches

end Tree
end PermitPolicy.Pattern
