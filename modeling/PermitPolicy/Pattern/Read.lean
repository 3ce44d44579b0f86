import PermitPolicy.Basic
import PermitPolicy.Pattern.Tree
import PermitPolicy.Text.Word

/-! Reading patterns.  There is no look-around and no back-reference, and a backslash before
a letter that stands for nothing is refused.  A step gives the rest of the text, and fuel is
the length of the text, since each step reads at least one character. -/

namespace PermitPolicy.Pattern
open Text (CharSet)
set_option autoImplicit false

/-- The text left to read, whether blanks and comments are skipped in it, and the names of
the groups so far. -/
structure Cursor where
  rest : List Char
  extended : Bool
  names : List (List Char)

namespace Cursor

def skipExtended (comment : Bool) : List Char → List Char
  | [] => []
  | c :: cs =>
    if comment then skipExtended (c ≠ '\n') cs
    else if Text.isBlank c then skipExtended false cs
    else if c = '#' then skipExtended true cs
    else c :: cs

def settle (c : Cursor) : Cursor :=
  if c.extended then { c with rest := skipExtended false c.rest } else c

def next (c : Cursor) : Cursor := { c with rest := c.rest.drop 1 }

def step (c : Cursor) : Cursor := c.next.settle

def peek? (c : Cursor) : Option Char := c.rest.head?

def accept? (word : String) (c : Cursor) : Option Cursor :=
  if word.toList.isPrefixOf c.rest then some { c with rest := c.rest.drop word.length } else none

end Cursor

def hexValue? (c : Char) : Option Nat :=
  if c.isDigit then some (c.toNat - '0'.toNat)
  else if 'a' ≤ c ∧ c ≤ 'f' then some (c.toNat - 'a'.toNat + 10)
  else if 'A' ≤ c ∧ c ≤ 'F' then some (c.toNat - 'A'.toNat + 10)
  else none

def scalar? (n : Nat) : Option Char :=
  if n.isValidChar then some (Char.ofNat n) else none

def readHexDigits (n : Nat) : (count : Nat) → Cursor → Option (Nat × Cursor)
  | 0, c => some (n, c)
  | count + 1, c => do
    let d ← hexValue? (← c.peek?)
    readHexDigits (n * 16 + d) count c.step

def readHexBraced : (fuel : Nat) → (digits : List Nat) → Cursor → Option (Nat × Cursor)
  | 0, _, _ => none
  | fuel + 1, digits, c =>
    match c.peek? with
    | none => none
    | some '\x7d' =>
      if digits.isEmpty then none
      else some (digits.foldl (fun n d => n * 16 + d) 0, c.step)
    | some x => do
      let d ← hexValue? x
      readHexBraced fuel (digits ++ [d]) c.step

def readHex (letter : Char) (c : Cursor) : Option (Literal × Cursor) :=
  let count := if letter = 'x' then 2 else if letter = 'u' then 4 else 8
  let c := c.step
  match c.peek? with
  | some '\x7b' => do
    let c := c.step
    let (n, c) ← readHexBraced (c.rest.length + 1) [] c
    return (⟨← scalar? n, false⟩, c)
  | _ => do
    let (n, c) ← readHexDigits 0 count c
    return (⟨← scalar? n, letter = 'x'⟩, c)

def readBraced : (fuel : Nat) → (name : List Char) → Cursor → Option (List Char × Cursor)
  | 0, _, _ => none
  | fuel + 1, name, c =>
    match c.peek? with
    | none => none
    | some '\x7d' => some (name.reverse, c.next)
    | some x => readBraced fuel (x :: name) c.step

def cutAt? (word : List Char) : List Char → Option (List Char × List Char)
  | [] => none
  | c :: cs =>
    if word.isPrefixOf (c :: cs) then some ([], (c :: cs).drop word.length)
    else (cutAt? word cs).map fun (before, after) => (c :: before, after)

/-- The query of a property between braces, and whether it is negated. -/
def propertyQuery (text : List Char) : PropertyQuery × Bool :=
  let query (parts : List Char × List Char) : PropertyQuery :=
    .value (String.ofList parts.1) (String.ofList parts.2)
  match cutAt? ['!', '='] text, cutAt? [':'] text, cutAt? ['='] text with
  | some parts, _, _ => (query parts, true)
  | none, some parts, _ => (query parts, false)
  | none, none, some parts => (query parts, false)
  | none, none, none => (.name (String.ofList text), false)

def readProperty (negated : Bool) (c : Cursor) : Option ((PropertyQuery × Bool) × Cursor) :=
  let c := c.step
  match c.peek? with
  | none => none
  | some '\x7b' => do
    let c := c.step
    let (text, c) ← readBraced (c.rest.length + 1) [] c
    let (query, other) := propertyQuery text
    return ((query, negated != other), c)
  | some '\\' => none
  | some x => some ((.name (String.singleton x), negated), c.step)

def isMeta (c : Char) : Bool := "\\.+*?()|[]\x7b\x7d^$#&-~".toList.contains c

/-- Whether a backslash before the character gives the character itself: it does for all of
ASCII but letters, digits and angle brackets. -/
def isEscapable (c : Char) : Bool :=
  isMeta c || (c.toNat < 128 && !c.isAlphanum && c ≠ '<' && c ≠ '>')

def letterClass? : Char → Option (LetterClass × Bool)
  | 'd' => some (.digit, false)
  | 'D' => some (.digit, true)
  | 's' => some (.space, false)
  | 'S' => some (.space, true)
  | 'w' => some (.word, false)
  | 'W' => some (.word, true)
  | _ => none

def controlOf? : Char → Option Char
  | 'a' => some '\x07'
  | 'f' => some '\x0c'
  | 't' => some '\t'
  | 'n' => some '\n'
  | 'r' => some '\r'
  | 'v' => some '\x0b'
  | _ => none

def boundaryNamed? : String → Option Anchor
  | "start" => some .wordStart
  | "end" => some .wordEnd
  | "start-half" => some .wordStartHalf
  | "end-half" => some .wordEndHalf
  | _ => none

def isBoundaryChar (c : Char) : Bool := c.isAlpha || c = '-'

def readBoundaryName : (fuel : Nat) → (name : List Char) → Cursor → List Char × Cursor
  | 0, name, c => (name.reverse, c)
  | fuel + 1, name, c =>
    match c.peek? with
    | some x =>
      if isBoundaryChar x then readBoundaryName fuel (x :: name) c.step else (name.reverse, c)
    | none => (name.reverse, c)

/-- Reads what follows `\b`: a name in braces, unless the braces hold a count. -/
def readBoundary (c : Cursor) : Option (Anchor × Cursor) :=
  match c.peek? with
  | some '\x7b' =>
    let inner := c.step
    match inner.peek? with
    | none => none
    | some x =>
      if isBoundaryChar x then
        let (name, c) := readBoundaryName inner.rest.length [] inner
        match c.peek? with
        | some '\x7d' => (boundaryNamed? (String.ofList name)).map fun a => (a, c.next)
        | _ => none
      else some (.wordBoundary, c)
  | _ => some (.wordBoundary, c)

def anchorOf? : Char → Option Anchor
  | 'A' => some .textStart
  | 'z' => some .textEnd
  | 'B' => some .notWordBoundary
  | '<' => some .wordStart
  | '>' => some .wordEnd
  | _ => none

def readEscape (c : Cursor) : Option (Tree × Cursor) := do
  let c := c.next
  let x ← c.peek?
  if x = 'x' || x = 'u' || x = 'U' then
    let (l, c) ← readHex x c
    return (.literal l, c)
  else if x = 'p' || x = 'P' then
    let ((query, negated), c) ← readProperty (x = 'P') c
    return (.property query negated, c)
  else if x = 'b' then
    let (a, c) ← readBoundary c.next
    return (.anchor a, c)
  else
    let c := c.next
    match letterClass? x, controlOf? x, anchorOf? x with
    | some (what, negated), _, _ => return (.letter what negated, c)
    | none, some y, _ => return (.literal ⟨y, false⟩, c)
    | none, none, some a => return (.anchor a, c)
    | none, none, none =>
      if isEscapable x then return (.literal ⟨x, false⟩, c) else none

def setItem? : Tree → Option SetTree
  | .literal l => some (.literal l)
  | .letter what negated => some (.letter what negated)
  | .property query negated => some (.property query negated)
  | _ => none

def literal? : Tree → Option Literal
  | .literal l => some l
  | _ => none

def readSetPiece (c : Cursor) : Option (Tree × Cursor) :=
  match c.peek? with
  | none => none
  | some '\\' => readEscape c
  | some x => some (.literal ⟨x, false⟩, c.next)

/-- Reads an item of a set, which may be a range.  A dash before a closing bracket or
another dash makes none. -/
def readSetRange (c : Cursor) : Option (SetTree × Cursor) := do
  let (first, c) ← readSetPiece c
  let c := c.settle
  let x ← c.peek?
  let after := c.step.peek?
  if x ≠ '-' || after = some ']' || after = some '-' then return (← setItem? first, c)
  else
    let c := c.step
    let (second, c) ← readSetPiece c
    let low ← literal? first
    let high ← literal? second
    if low.char ≤ high.char then return (.range low high, c) else none

def posixNamed? : String → Option PosixClass
  | "alnum" => some .alnum
  | "alpha" => some .alpha
  | "ascii" => some .ascii
  | "blank" => some .blank
  | "cntrl" => some .cntrl
  | "digit" => some .digit
  | "graph" => some .graph
  | "lower" => some .lower
  | "print" => some .print
  | "punct" => some .punct
  | "space" => some .space
  | "upper" => some .upper
  | "word" => some .word
  | "xdigit" => some .xdigit
  | _ => none

def readPosix? (c : Cursor) : Option (SetTree × Cursor) := do
  let c ← c.accept? "[:"
  let (negated, c) := match c.accept? "^" with
    | some c => (true, c)
    | none => (false, c)
  let (name, rest) := c.rest.span (· ≠ ':')
  let what ← posixNamed? (String.ofList name)
  let c ← Cursor.accept? ":]" { c with rest := rest }
  return (.posix what negated, c)

/-- Dashes at the start of a set stand for themselves, and so does a closing bracket that
comes first. -/
def readSetStart : (fuel : Nat) → (items : List SetTree) → Cursor →
    Option (List SetTree × Cursor)
  | 0, _, _ => none
  | fuel + 1, items, c =>
    match c.peek? with
    | none => none
    | some '-' => readSetStart fuel (items ++ [.literal ⟨'-', false⟩]) c.step
    | some ']' =>
      if items.isEmpty then
        let c := c.step
        if c.rest.isEmpty then none else some ([.literal ⟨']', false⟩], c)
      else some (items, c)
    | some _ => some (items, c)

def applyPending (pending : Option (SetOperator × SetTree)) (items : List SetTree) : SetTree :=
  match pending with
  | some (operator, left) => .binary operator left (.ofItems items)
  | none => .ofItems items

mutual
def readSet : (fuel : Nat) → Cursor → Option ((Bool × SetTree) × Cursor)
  | 0, _ => none
  | fuel + 1, c => do
    let (negated, c) := match c.peek? with
      | some '^' => (true, c.step)
      | _ => (false, c)
    let (items, c) ← readSetStart (c.rest.length + 1) [] c
    let (inner, c) ← readSetItems fuel none items c
    return ((negated, inner), c)

def readSetItems : (fuel : Nat) → (pending : Option (SetOperator × SetTree)) →
    (items : List SetTree) → Cursor → Option (SetTree × Cursor)
  | 0, _, _, _ => none
  | fuel + 1, pending, items, c =>
    let c := c.settle
    match c.rest with
    | [] => none
    | ']' :: _ => some (applyPending pending items, c.next)
    | '&' :: '&' :: _ =>
      readSetItems fuel (some (.intersection, applyPending pending items)) [] c.next.next
    | '-' :: '-' :: _ =>
      readSetItems fuel (some (.difference, applyPending pending items)) [] c.next.next
    | '~' :: '~' :: _ =>
      readSetItems fuel (some (.symmetricDifference, applyPending pending items)) []
        c.next.next
    | '[' :: _ =>
      match readPosix? c with
      | some (item, c) => readSetItems fuel pending (items ++ [item]) c
      | none =>
        match readSet fuel c.step with
        | none => none
        | some ((negated, inner), c) =>
          readSetItems fuel pending (items ++ [.bracketed negated inner]) c
    | _ =>
      match readSetRange c with
      | none => none
      | some (item, c) => readSetItems fuel pending (items ++ [item]) c
end

def flagOf? : Char → Option Flag
  | 'i' => some .ignoreCase
  | 'm' => some .multiLine
  | 's' => some .dotAll
  | 'U' => some .swapGreed
  | 'u' => some .unicode
  | 'R' => some .carriageReturn
  | 'x' => some .extended
  | _ => none

/-- Reads flags up to a colon or a closing parenthesis, which the cursor is left on.  There
is one dash at most, with a flag after it, and no flag twice. -/
def readFlags : (fuel : Nat) → (negative : Bool) → (dangling : Bool) → FlagChange → Cursor →
    Option (FlagChange × Cursor)
  | 0, _, _, _, _ => none
  | fuel + 1, negative, dangling, change, c =>
    match c.peek? with
    | none => none
    | some x =>
      if x = ':' || x = ')' then if dangling then none else some (change, c)
      else if x = '-' then
        if negative then none else readFlags fuel true true change c.next
      else
        match flagOf? x with
        | none => none
        | some f =>
          if change.on.contains f || change.off.contains f then none
          else if negative then
            readFlags fuel negative false { change with off := f :: change.off } c.next
          else readFlags fuel negative false { change with on := f :: change.on } c.next

def isNameStart (c : Char) : Bool := c = '_' || Text.alphabetic.contains c

def isNamePart (c : Char) : Bool :=
  c = '_' || c = '.' || c = '[' || c = ']' || Text.alphabetic.contains c ||
    Text.numeric.contains c

def readGroupName (c : Cursor) : Option Cursor :=
  let (name, rest) := c.rest.span (· ≠ '>')
  match name, rest with
  | x :: xs, _ :: rest =>
    if isNameStart x && xs.all isNamePart && !c.names.contains name then
      some { c with rest := rest, names := name :: c.names }
    else none
  | _, _ => none

inductive Opening where
  | flags (change : FlagChange)
  | capture
  | group (change : FlagChange)

def readOpening (c : Cursor) : Option (Opening × Cursor) :=
  let c := c.settle
  if ["?=", "?!", "?<=", "?<!"].any fun w => (c.accept? w).isSome then none
  else
    match (c.accept? "?P<").orElse fun _ => c.accept? "?<" with
    | some c => (readGroupName c).map fun c => (.capture, c)
    | none =>
      match c.accept? "?" with
      | none => some (.capture, c)
      | some c => do
        let (change, c) ← readFlags (c.rest.length + 1) false false ⟨[], []⟩ c
        if c.peek? = some ':' then return (.group change, c.next)
        else if change.on.isEmpty && change.off.isEmpty then none
        else return (.flags change, c.next)

def repeatable : Tree → Bool
  | .empty | .flags _ => false
  | _ => true

def skipLazy (c : Cursor) : Cursor := if c.peek? = some '?' then c.next else c

def skipBlanks (c : Cursor) : Cursor := { c with rest := c.rest.dropWhile Text.isBlank }

def readCountDigits : (fuel : Nat) → (digits : List Char) → Cursor → List Char × Cursor
  | 0, digits, c => (digits.reverse, c)
  | fuel + 1, digits, c =>
    match c.peek? with
    | some x =>
      if x.isDigit then readCountDigits fuel (x :: digits) c.step else (digits.reverse, c)
    | none => (digits.reverse, c)

def readCount (c : Cursor) : Option (Nat × Cursor) :=
  let c := skipBlanks c
  let (digits, c) := readCountDigits c.rest.length [] c
  let c := skipBlanks c.settle
  let n := digits.foldl (fun n d => n * 10 + (d.toNat - '0'.toNat)) 0
  if digits.isEmpty || twoPow 32 ≤ n then none else some (n, c)

def readMost (least : Nat) (c : Cursor) : Option (Option Nat × Cursor) :=
  if c.peek? ≠ some ',' then some (some least, c)
  else
    let c := c.step
    match c.peek? with
    | none => none
    | some '\x7d' => some (none, c)
    | some _ => (readCount c).map fun (n, c) => (some n, c)

def readCounts (c : Cursor) : Option ((Nat × Option Nat) × Cursor) := do
  let (least, c) ← readCount c.step
  let (most, c) ← readMost least c
  if c.peek? ≠ some '\x7d' then none
  else if most.any (· < least) then none
  else return ((least, most), c.step)

structure Pending where
  pieces : List Tree
  branches : List Tree

namespace Pending

def push (p : Pending) (t : Tree) : Pending := { p with pieces := p.pieces ++ [t] }

def endBranch (p : Pending) : Pending := ⟨[], p.branches ++ [.ofPieces p.pieces]⟩

def finish (p : Pending) : Tree := .ofBranches p.endBranch.branches

def repeatLast (p : Pending) (least : Nat) (most : Option Nat) : Option Pending :=
  match p.pieces.getLast? with
  | none => none
  | some t =>
    if repeatable t then some { p with pieces := p.pieces.dropLast ++ [.repetition t least most] }
    else none

end Pending

/-- Reads pieces and branches up to the end of the text, or the parenthesis that closes the
group. -/
def readBranches : (fuel : Nat) → Pending → Cursor → Option (Tree × Cursor)
  | 0, _, _ => none
  | fuel + 1, p, c =>
    let c := c.settle
    match c.peek? with
    | none => some (p.finish, c)
    | some ')' => some (p.finish, c)
    | some '|' => readBranches fuel p.endBranch c.next
    | some '(' => do
      let (opening, inner) ← readOpening c.next
      match opening with
      | .flags change =>
        let extended := (change.state? .extended).getD c.extended
        readBranches fuel (p.push (.flags change)) { inner with extended }
      | .capture =>
        let (t, inner) ← readBranches fuel ⟨[], []⟩ inner
        if inner.peek? ≠ some ')' then none
        else readBranches fuel (p.push (.capture t)) { inner.next with extended := c.extended }
      | .group change =>
        let extended := (change.state? .extended).getD c.extended
        let (t, inner) ← readBranches fuel ⟨[], []⟩ { inner with extended }
        if inner.peek? ≠ some ')' then none
        else
          readBranches fuel (p.push (.group change t)) { inner.next with extended := c.extended }
    | some '[' => do
      let ((negated, inner), c) ← readSet c.rest.length c.step
      readBranches fuel (p.push (.set negated inner)) c
    | some '?' => do readBranches fuel (← p.repeatLast 0 (some 1)) (skipLazy c.next)
    | some '*' => do readBranches fuel (← p.repeatLast 0 none) (skipLazy c.next)
    | some '+' => do readBranches fuel (← p.repeatLast 1 none) (skipLazy c.next)
    | some '\x7b' => do
      let ((least, most), c) ← readCounts c
      readBranches fuel (← p.repeatLast least most) (skipLazy c)
    | some '\\' => do
      let (t, c) ← readEscape c
      readBranches fuel (p.push t) c
    | some '.' => readBranches fuel (p.push .dot) c.next
    | some '^' => readBranches fuel (p.push (.anchor .lineStart)) c.next
    | some '$' => readBranches fuel (p.push (.anchor .lineEnd)) c.next
    | some x => readBranches fuel (p.push (.literal ⟨x, false⟩)) c.next

def nestingLimit : Nat := 250

def Tree.read? (text : String) : Option Tree := do
  let cs := text.toList
  let (t, c) ← readBranches (cs.length + 1) ⟨[], []⟩ ⟨cs, false, []⟩
  if c.rest.isEmpty && t.depth ≤ nestingLimit then return t else none

end PermitPolicy.Pattern
