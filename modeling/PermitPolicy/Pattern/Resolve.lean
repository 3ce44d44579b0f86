import PermitPolicy.Pattern.Property
import PermitPolicy.Pattern.Read
import PermitPolicy.Pattern.Size

/-! From trees to automata.  Flags hold from where they stand to the end of the group around
them.  With the Unicode flag off, classes are of ASCII, and whatever could match a part of a
character is refused. -/

namespace PermitPolicy.Pattern
open Text (CharSet)
set_option autoImplicit false

structure Flags where
  ignoreCase : Bool := false
  multiLine : Bool := false
  dotAll : Bool := false
  unicode : Bool := true
  carriageReturn : Bool := false
deriving DecidableEq

def Flags.apply (f : Flags) (change : FlagChange) : Flags where
  ignoreCase := (change.state? .ignoreCase).getD f.ignoreCase
  multiLine := (change.state? .multiLine).getD f.multiLine
  dotAll := (change.state? .dotAll).getD f.dotAll
  unicode := (change.state? .unicode).getD f.unicode
  carriageReturn := (change.state? .carriageReturn).getD f.carriageReturn

def PosixClass.chars : PosixClass → CharSet
  | .alnum => .ofTable ["30-39 41-5a 61-7a"]
  | .alpha => .ofTable ["41-5a 61-7a"]
  | .ascii => .ofTable ["0-7f"]
  | .blank => .ofTable ["9 20"]
  | .cntrl => .ofTable ["0-1f 7f"]
  | .digit => .ofTable ["30-39"]
  | .graph => .ofTable ["21-7e"]
  | .lower => .ofTable ["61-7a"]
  | .print => .ofTable ["20-7e"]
  | .punct => .ofTable ["21-2f 3a-40 5b-60 7b-7e"]
  | .space => .ofTable ["9-d 20"]
  | .upper => .ofTable ["41-5a"]
  | .word => .ofTable ["30-39 41-5a 5f 61-7a"]
  | .xdigit => .ofTable ["30-39 41-46 61-66"]

def LetterClass.chars (unicode : Bool) : LetterClass → CharSet
  | .digit => if unicode then Text.decimalDigits else PosixClass.digit.chars
  | .space => if unicode then Text.blanks else PosixClass.space.chars
  | .word => if unicode then Text.wordChars else asciiWordChars

namespace Flags

def fold (f : Flags) (s : CharSet) : CharSet :=
  if !f.ignoreCase then s
  else if f.unicode then s.closeUnderCase
  else s.closeUnderAsciiCase

/-- The complement of a set if it is asked for.  Without the Unicode flag there is none, as
it would hold parts of characters. -/
def negate? (f : Flags) (negated : Bool) (s : CharSet) : Option CharSet :=
  if !negated then some s
  else if f.unicode then some s.compl
  else none

def letter? (f : Flags) (what : LetterClass) (negated : Bool) : Option CharSet :=
  f.negate? negated (what.chars f.unicode)

def property? (f : Flags) (query : PropertyQuery) (negated : Bool) : Option CharSet :=
  if f.unicode then query.resolve?.bind fun s => f.negate? negated (f.fold s) else none

def setChar? (f : Flags) (l : Literal) : Option Char :=
  if f.unicode || l.char.toNat < 128 then some l.char else none

/-- A character by itself; without the Unicode flag, one written as a byte is of ASCII. -/
def char? (f : Flags) (l : Literal) : Option Char :=
  if f.unicode || !l.byte || l.char.toNat < 128 then some l.char else none

end Flags

def SetOperator.apply : SetOperator → CharSet → CharSet → CharSet
  | .intersection => CharSet.inter
  | .difference => CharSet.diff
  | .symmetricDifference => CharSet.symmDiff

namespace SetTree

mutual
def resolve? (f : Flags) : SetTree → Option CharSet
  | .literal l => (f.setChar? l).map .single
  | .range low high => do return .range (← f.setChar? low) (← f.setChar? high)
  | .posix what negated => f.negate? negated (f.fold what.chars)
  | .letter what negated => f.letter? what negated
  | .property query negated => f.property? query negated
  | .bracketed negated inner => do f.negate? negated (f.fold (← resolve? f inner))
  | .union items => resolveAll? f items
  | .binary operator left right => do
    return operator.apply (f.fold (← resolve? f left)) (f.fold (← resolve? f right))

def resolveAll? (f : Flags) : List SetTree → Option CharSet
  | [] => some .empty
  | t :: rest => do return (← resolve? f t).union (← resolveAll? f rest)
end

end SetTree

def Anchor.look (f : Flags) : Anchor → Look
  | .lineStart =>
    if !f.multiLine then .textStart
    else if f.carriageReturn then .lineStartOrReturn
    else .lineStart
  | .lineEnd =>
    if !f.multiLine then .textEnd
    else if f.carriageReturn then .lineEndOrReturn
    else .lineEnd
  | .textStart => .textStart
  | .textEnd => .textEnd
  | .wordBoundary => .boundary f.unicode
  | .notWordBoundary => .notBoundary f.unicode
  | .wordStart => .wordStart f.unicode
  | .wordEnd => .wordEnd f.unicode
  | .wordStartHalf => .wordStartHalf f.unicode
  | .wordEndHalf => .wordEndHalf f.unicode

/-- What a dot matches: all characters, or all but line ends. -/
def dotChars? (f : Flags) : Option CharSet :=
  if !f.unicode then none
  else if f.dotAll then some .full
  else if f.carriageReturn then some (CharSet.ofList ['\n', '\r']).compl
  else some (CharSet.single '\n').compl

namespace Tree

mutual
def resolve? (f : Flags) : Tree → Option (Node × Flags)
  | .empty => some (.empty, f)
  | .flags change => some (.empty, f.apply change)
  | .literal l => do return (.chars (f.fold (.single (← f.char? l))), f)
  | .dot => (dotChars? f).map fun s => (.chars s, f)
  | .anchor a => some (.look (a.look f), f)
  | .letter what negated => (f.letter? what negated).map fun s => (.chars s, f)
  | .property query negated => (f.property? query negated).map fun s => (.chars s, f)
  | .set negated inner => do
    return (.chars (← f.negate? negated (f.fold (← inner.resolve? f))), f)
  | .repetition inner least most => do
    let (n, f) ← resolve? f inner
    return (.loop n least most, f)
  | .capture inner => do
    let (n, _) ← resolve? f inner
    return (.capture n, f)
  | .group change inner => do
    let (n, _) ← resolve? (f.apply change) inner
    return (n, f)
  | .concat items => do
    let (ns, f) ← resolveAll? f items
    return (.seq ns, f)
  | .alternation branches => do
    let (ns, f) ← resolveAll? f branches
    return (.alt ns, f)

def resolveAll? (f : Flags) : List Tree → Option (List Node × Flags)
  | [] => some ([], f)
  | t :: rest => do
    let (n, f) ← resolve? f t
    let (ns, f) ← resolveAll? f rest
    return (n :: ns, f)
end

end Tree

def compile? (text : String) : Option Node := do
  let (n, _) ← (← Tree.read? text).resolve? {}
  if n.size ≤ sizeLimit then return n else none

end PermitPolicy.Pattern
