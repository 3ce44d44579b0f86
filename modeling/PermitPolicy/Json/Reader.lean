import PermitPolicy.Basic
import PermitPolicy.Json.Decimal
import PermitPolicy.Json.Value

/-! Reading JSON text.  An error names its fault, the place of the byte at fault and the
keys and indices that lead to the value being read.  Budgets are lengths of the text left,
so a loop runs out of its budget only at the end of the text. -/

namespace PermitPolicy.Json
set_option autoImplicit false

inductive ReadFault where
  | endInList | endInObject | endInString | endInValue
  | expectedColon | expectedListCommaOrEnd | expectedObjectCommaOrEnd
  | expectedWord | expectedValue
  | invalidEscape | invalidNumber | numberOutOfRange
  | controlCharacter | keyMustBeString
  | loneSurrogate | unfinishedHexEscape
  | trailingComma | trailingCharacters | tooDeep
deriving DecidableEq

def ReadFault.message : ReadFault → String
  | .endInList => "EOF while parsing a list"
  | .endInObject => "EOF while parsing an object"
  | .endInString => "EOF while parsing a string"
  | .endInValue => "EOF while parsing a value"
  | .expectedColon => "expected `:`"
  | .expectedListCommaOrEnd => "expected `,` or `]`"
  | .expectedObjectCommaOrEnd => "expected `,` or `\x7d`"
  | .expectedWord => "expected ident"
  | .expectedValue => "expected value"
  | .invalidEscape => "invalid escape"
  | .invalidNumber => "invalid number"
  | .numberOutOfRange => "number out of range"
  | .controlCharacter => "control character (\\u0000-\\u001F) found while parsing a string"
  | .keyMustBeString => "key must be a string"
  | .loneSurrogate => "lone leading surrogate in hex escape"
  | .unfinishedHexEscape => "unexpected end of hex escape"
  | .trailingComma => "trailing comma"
  | .trailingCharacters => "trailing characters"
  | .tooDeep => "recursion limit exceeded"

/-- A place in a text: the line, from one, and the bytes read of it. -/
structure Place where
  line : Nat
  column : Nat
deriving DecidableEq

inductive PathStep where
  | key (name : String)
  | index (i : Nat)
deriving DecidableEq

/-- A fault with its place in the text and the path of the innermost value being read;
`atKey` says that a key was due next in it. -/
structure ReadError where
  fault : ReadFault
  place : Place
  path : List PathStep := []
  atKey : Bool := false
deriving DecidableEq

def ReadError.message (e : ReadError) : String :=
  s!"{e.fault.message} at line {e.place.line} column {e.place.column}"

def PathStep.render : List PathStep → String
  | [] => ""
  | first :: rest => one first ++ String.join (rest.map fun
      | .key name => "." ++ name
      | .index i => one (.index i))
where
  one : PathStep → String
    | .key name => name
    | .index i => s!"[{i}]"

/-- The text of an error after its path, a key that was due being a question mark.  The path
of the outermost value is left out. -/
def ReadError.messageAtPath (e : ReadError) : String :=
  if e.path.isEmpty then e.message
  else PathStep.render e.path ++ (if e.atKey then ".?" else "") ++ ": " ++ e.message

namespace Place

def start : Place := ⟨1, 0⟩

def afterByte (p : Place) (c : Char) : Place :=
  if c = '\n' then ⟨p.line + 1, 0⟩ else ⟨p.line, p.column + 1⟩

def after (p : Place) (c : Char) : Place :=
  if c = '\n' then ⟨p.line + 1, 0⟩ else ⟨p.line, p.column + c.utf8Size⟩

def afterBytes (p : Place) : (bytes : Nat) → List Char → Place
  | 0, _ | _, [] => p
  | bytes + 1, c :: cs =>
    if c.utf8Size ≤ bytes + 1 then afterBytes (p.after c) (bytes + 1 - c.utf8Size) cs
    else ⟨p.line, p.column + bytes + 1⟩
termination_by _ cs => cs.length

end Place

structure Cursor where
  rest : List Char
  place : Place

abbrev ReadResult (α : Type) := Except ReadError (α × Cursor)

namespace Cursor

def fail {α : Type} (fault : ReadFault) (place : Place) : Except ReadError α :=
  .error { fault, place }

def next (c : Cursor) : Place :=
  match c.rest with
  | [] => c.place
  | x :: _ => c.place.afterByte x

def advance (c : Cursor) : Cursor :=
  match c.rest with
  | [] => c
  | x :: xs => ⟨xs, c.place.after x⟩

def isBlank (x : Char) : Bool := x = ' ' || x = '\n' || x = '\t' || x = '\r'

def skipBlanksFrom (place : Place) : List Char → Cursor
  | [] => ⟨[], place⟩
  | x :: xs => if isBlank x then skipBlanksFrom (place.after x) xs else ⟨x :: xs, place⟩

def skipBlanks (c : Cursor) : Cursor := skipBlanksFrom c.place c.rest

def takeDigitsFrom (place : Place) : List Char → List Nat × Cursor
  | [] => ([], ⟨[], place⟩)
  | x :: xs =>
    if x.isDigit then
      let (ds, c) := takeDigitsFrom (place.after x) xs
      ((x.toNat - '0'.toNat) :: ds, c)
    else ([], ⟨x :: xs, place⟩)

def takeDigits (c : Cursor) : List Nat × Cursor := takeDigitsFrom c.place c.rest

def word : List Char → Cursor → Except ReadError Cursor
  | [], c => .ok c
  | x :: xs, c =>
    match c.rest with
    | [] => fail .endInValue c.place
    | y :: _ => if x = y then word xs c.advance else fail .expectedWord c.next

end Cursor

open Cursor (fail)

def digitCapacity : Nat := twoPow 64 - 1

/-- Gathers digits into a whole number until the next one does not fit, and gives the
number and the digits left. -/
def gather (n : Nat) : List Nat → Nat × List Nat
  | [] => (n, [])
  | d :: ds => if n * 10 + d ≤ digitCapacity then gather (n * 10 + d) ds else (n, d :: ds)

/-- A number with a fraction, an exponent or too many digits. -/
def finishDouble (negative : Bool) (digits : Nat) (exponent : Int) (c : Cursor) :
    ReadResult Number :=
  match Decimal.read? negative digits exponent with
  | some x => .ok (.double x, c)
  | none => fail .numberOutOfRange c.place

/-- Largest exponent that is read exactly; any larger one overflows or vanishes. -/
def exponentCapacity : Nat := twoPow 31 - 1

/-- Reads the digits of an exponent after the first; the outcome is none when it grows past
the capacity, with the cursor after the digit at fault. -/
def readExponentDigits (n : Nat) (place : Place) : List Char → Option Nat × Cursor
  | [] => (some n, ⟨[], place⟩)
  | x :: xs =>
    if x.isDigit then
      let m := n * 10 + (x.toNat - '0'.toNat)
      if m ≤ exponentCapacity then readExponentDigits m (place.after x) xs
      else (none, ⟨xs, place.after x⟩)
    else (some n, ⟨x :: xs, place⟩)

def readExponent (negative : Bool) (digits : Nat) (exponent : Int) (c : Cursor) :
    ReadResult Number :=
  let c := c.advance
  let (down, c) := match c.rest with
    | '+' :: _ => (false, c.advance)
    | '-' :: _ => (true, c.advance)
    | _ => (false, c)
  match c.rest with
  | [] => fail .endInValue c.place
  | x :: xs =>
    if !x.isDigit then fail .invalidNumber c.next
    else
      match readExponentDigits (x.toNat - '0'.toNat) (c.place.after x) xs with
      | (some n, c) =>
        finishDouble negative digits (if down then exponent - n else exponent + n) c
      | (none, c) =>
        if digits ≠ 0 ∧ !down then fail .numberOutOfRange c.place
        else .ok (.double (.zero negative), c.takeDigits.2)

def isExponentMark (c : Cursor) : Bool :=
  match c.rest with
  | x :: _ => x = 'e' || x = 'E'
  | [] => false

def isPoint (c : Cursor) : Bool :=
  match c.rest with
  | x :: _ => x = '.'
  | [] => false

def readFraction (negative : Bool) (digits : Nat) (exponent : Int) (c : Cursor) :
    ReadResult Number :=
  let (ds, c) := c.advance.takeDigits
  if ds.isEmpty then
    match c.rest with
    | [] => fail .endInValue c.place
    | _ => fail .invalidNumber c.next
  else
    let (digits, left) := gather digits ds
    let exponent := exponent - (ds.length - left.length : Nat)
    if isExponentMark c then readExponent negative digits exponent c
    else finishDouble negative digits exponent c

def readNumberTail (negative : Bool) (digits : Nat) (dropped : Nat) (c : Cursor) :
    ReadResult Number :=
  if isPoint c then readFraction negative digits dropped c
  else if isExponentMark c then readExponent negative digits dropped c
  else if dropped ≠ 0 then finishDouble negative digits dropped c
  else if !negative then .ok (.int digits, c)
  else if digits = 0 ∨ twoPow 63 < digits then finishDouble true digits 0 c
  else .ok (.int (-(digits : Int)), c)

def readNumber (negative : Bool) (c : Cursor) : ReadResult Number :=
  match c.rest with
  | [] => fail .endInValue c.place
  | '0' :: _ =>
    let c := c.advance
    match c.rest with
    | x :: _ => if x.isDigit then fail .invalidNumber c.next else readNumberTail negative 0 0 c
    | [] => readNumberTail negative 0 0 c
  | x :: _ =>
    if x.isDigit then
      let (ds, c) := c.takeDigits
      let (digits, left) := gather 0 ds
      readNumberTail negative digits left.length c
    else fail .invalidNumber c.next

def hexValue? (c : Char) : Option Nat :=
  if c.isDigit then some (c.toNat - '0'.toNat)
  else if 'a' ≤ c ∧ c ≤ 'f' then some (c.toNat - 'a'.toNat + 10)
  else if 'A' ≤ c ∧ c ≤ 'F' then some (c.toNat - 'A'.toNat + 10)
  else none

def readHex (c : Cursor) : ReadResult Nat :=
  let four := c.rest.take 4
  match four.mapM hexValue? with
  | some [a, b, d, e] =>
    .ok (((a * 16 + b) * 16 + d) * 16 + e, ⟨c.rest.drop 4, c.place.afterBytes 4 c.rest⟩)
  | _ =>
    let here := c.place.afterBytes 4 c.rest
    if Text.utf8Length four < 4 then fail .endInString here
    else fail .invalidEscape here

def readPaired (x : Char) (c : Cursor) : Except ReadError Cursor :=
  match c.rest with
  | [] => fail .endInString c.place
  | y :: _ => if x = y then .ok c.advance else fail .unfinishedHexEscape c.next

/-- Reads an escape of hex digits, of two halves where the first is a leading surrogate. -/
def readHexEscape (c : Cursor) : Except ReadError (Char × Cursor) := do
  let (n, c) ← readHex c
  if 0xDC00 ≤ n ∧ n ≤ 0xDFFF then fail .loneSurrogate c.place
  else if n < 0xD800 ∨ 0xDBFF < n then return (Char.ofNat n, c)
  else
    let c ← readPaired '\\' c
    let c ← readPaired 'u' c
    let (m, c) ← readHex c
    if m < 0xDC00 ∨ 0xDFFF < m then fail .loneSurrogate c.place
    else return (Char.ofNat ((n - 0xD800) * 1024 + (m - 0xDC00) + 0x10000), c)

def readEscape (c : Cursor) : ReadResult Char :=
  match c.rest with
  | [] => fail .endInString c.place
  | x :: _ =>
    match x with
    | '"' | '\\' | '/' => .ok (x, c.advance)
    | 'b' => .ok ('\x08', c.advance)
    | 'f' => .ok ('\x0c', c.advance)
    | 'n' => .ok ('\n', c.advance)
    | 'r' => .ok ('\r', c.advance)
    | 't' => .ok ('\t', c.advance)
    | 'u' => readHexEscape c.advance
    | _ => fail .invalidEscape c.next

def readChars : (budget : Nat) → List Char → Cursor → ReadResult String
  | 0, _, c => fail .endInString c.place
  | budget + 1, acc, c =>
    match c.rest with
    | [] => fail .endInString c.place
    | '"' :: _ => .ok (String.ofList acc.reverse, c.advance)
    | '\\' :: _ =>
      match readEscape c.advance with
      | .error e => .error e
      | .ok (x, c) => readChars budget (x :: acc) c
    | x :: _ =>
      if x < ' ' then fail .controlCharacter c.next
      else readChars budget (x :: acc) c.advance

def readString (c : Cursor) : ReadResult String := readChars c.rest.length [] c

def within {α : Type} (step : PathStep) : Except ReadError α → Except ReadError α
  | .error e => .error { e with path := step :: e.path }
  | .ok a => .ok a

def atKey {α : Type} : Except ReadError α → Except ReadError α
  | .error e => .error { e with atKey := true }
  | .ok a => .ok a

def nextItem (first : Bool) (c : Cursor) : Except ReadError (Option Cursor) :=
  let c := c.skipBlanks
  match c.rest with
  | [] => fail .endInList c.place
  | ']' :: _ => .ok none
  | x :: _ =>
    if first then .ok (some c)
    else if x ≠ ',' then fail .expectedListCommaOrEnd c.next
    else
      let c := c.advance.skipBlanks
      match c.rest with
      | [] => fail .endInValue c.place
      | ']' :: _ => fail .trailingComma c.next
      | _ => .ok (some c)

/-- Reads the items of a list after its opening bracket, `done` of which are read. -/
def readItems (item : Cursor → ReadResult Value) :
    (budget : Nat) → List Value → Cursor → ReadResult (List Value)
  | 0, _, c => fail .endInList c.place
  | budget + 1, acc, c =>
    match nextItem acc.isEmpty c with
    | .error e => .error e
    | .ok none => .ok (acc.reverse, c.skipBlanks.advance)
    | .ok (some c) =>
      match within (.index acc.length) (item c) with
      | .error e => .error e
      | .ok (v, c) => readItems item budget (v :: acc) c

def nextKey (first : Bool) (c : Cursor) : Except ReadError (Option Cursor) :=
  let c := c.skipBlanks
  match c.rest with
  | [] => fail .endInObject c.place
  | '\x7d' :: _ => .ok none
  | x :: _ =>
    if first then
      if x = '"' then .ok (some c) else fail .keyMustBeString c.next
    else if x ≠ ',' then fail .expectedObjectCommaOrEnd c.next
    else
      let c := c.advance.skipBlanks
      match c.rest with
      | [] => fail .endInValue c.place
      | '"' :: _ => .ok (some c)
      | '\x7d' :: _ => fail .trailingComma c.next
      | _ => fail .keyMustBeString c.next

def readColon (c : Cursor) : Except ReadError Cursor :=
  let c := c.skipBlanks
  match c.rest with
  | [] => fail .endInObject c.place
  | ':' :: _ => .ok c.advance
  | _ => fail .expectedColon c.next

def readMembers (item : Cursor → ReadResult Value) :
    (budget : Nat) → List (String × Value) → Cursor → ReadResult (List (String × Value))
  | 0, _, c => fail .endInObject c.place
  | budget + 1, acc, c =>
    match atKey (nextKey acc.isEmpty c) with
    | .error e => .error e
    | .ok none => .ok (acc.reverse, c.skipBlanks.advance)
    | .ok (some c) =>
      match atKey (readString c.advance) with
      | .error e => .error e
      | .ok (key, c) =>
        match readColon c with
        | .error e => .error e
        | .ok c =>
          match within (.key key) (item c) with
          | .error e => .error e
          | .ok (v, c) => readMembers item budget ((key, v) :: acc) c

def nestingLimit : Nat := 127

def readValue : (depth : Nat) → Cursor → Except ReadError (Value × Cursor)
  | depth, c =>
    let c := c.skipBlanks
    match c.rest with
    | [] => fail .endInValue c.place
    | 'n' :: _ => do return (.null, ← Cursor.word ['u', 'l', 'l'] c.advance)
    | 't' :: _ => do return (.bool true, ← Cursor.word ['r', 'u', 'e'] c.advance)
    | 'f' :: _ => do return (.bool false, ← Cursor.word ['a', 'l', 's', 'e'] c.advance)
    | '-' :: _ => do
      let (n, c) ← readNumber true c.advance
      return (.number n, c)
    | '"' :: _ => do
      let (s, c) ← readString c.advance
      return (.string s, c)
    | '[' :: _ =>
      match depth with
      | 0 => fail .tooDeep c.next
      | depth + 1 => do
        let (items, c) ← readItems (readValue depth) c.advance.rest.length [] c.advance
        return (.array items, c)
    | '\x7b' :: _ =>
      match depth with
      | 0 => fail .tooDeep c.next
      | depth + 1 => do
        let (ms, c) ← readMembers (readValue depth) c.advance.rest.length [] c.advance
        return (.ofMembers ms, c)
    | x :: _ =>
      if x.isDigit then do
        let (n, c) ← readNumber false c
        return (.number n, c)
      else fail .expectedValue c.next

def readPrefix (text : String) : ReadResult Value :=
  readValue nestingLimit ⟨text.toList, .start⟩

def read (text : String) : Except ReadError Value := do
  let (v, c) ← readPrefix text
  let c := c.skipBlanks
  match c.rest with
  | [] => return v
  | _ => fail .trailingCharacters c.next

end PermitPolicy.Json
