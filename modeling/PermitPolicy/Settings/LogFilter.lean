import PermitPolicy.Basic
import PermitPolicy.Pattern.Resolve
import PermitPolicy.Text.Numeral
import PermitPolicy.Text.Word

/-! Log filters: directives with commas between them.  A directive is a level, or a target,
a span with fields in brackets or both, and a level after an equals sign. -/

namespace PermitPolicy
set_option autoImplicit false

inductive LogLevel where
  | off | error | warn | info | debug | trace
deriving DecidableEq

namespace LogLevel

def ofNumber? : Nat → Option LogLevel
  | 0 => some .off
  | 1 => some .error
  | 2 => some .warn
  | 3 => some .info
  | 4 => some .debug
  | 5 => some .trace
  | _ => none

def named : List (String × LogLevel) :=
  [("", .error), ("error", .error), ("warn", .warn), ("info", .info), ("debug", .debug),
    ("trace", .trace), ("off", .off)]

def read? (text : List Char) : Option LogLevel :=
  match (Text.parseNat? (twoPow 64 - 1) text).bind ofNumber? with
  | some level => some level
  | none => named.lookup (String.ofList (text.map Char.toLower))

end LogLevel

inductive FilterFault where
  | directive | level | field
deriving DecidableEq

namespace FilterFault

def levelMessage : String :=
  "error parsing level filter: expected one of \"off\", \"error\", \"warn\", \"info\", " ++
    "\"debug\", \"trace\", or a number 0-5"

def message : FilterFault → String
  | .directive => "invalid filter directive"
  | .level => levelMessage
  | .field => "invalid field filter: error building NFA"

def causes : FilterFault → List String
  | .directive => []
  | .level => [levelMessage]
  | .field => ["error building NFA", "error parsing regex"]

end FilterFault

structure FieldFilter where
  name : String
  value : Option String
deriving DecidableEq

structure LogDirective where
  target : Option String := none
  span : Option String := none
  fields : List FieldFilter := []
  level : LogLevel := .trace
deriving DecidableEq

namespace FieldFilter

def isDecimalTail (cs : List Char) : Bool :=
  let fraction := match cs with
    | '.' :: rest => rest.dropWhile Char.isDigit
    | cs => cs
  match fraction with
  | [] => true
  | 'e' :: '+' :: rest | 'e' :: '-' :: rest | 'e' :: rest => !rest.isEmpty && rest.all Char.isDigit
  | _ => false

def isPositiveDecimal (text : List Char) : Bool :=
  match text with
  | '+' :: cs =>
    let cs := cs.map Char.toLower
    ["inf", "infinity", "nan"].contains (String.ofList cs) ||
      ((cs.takeWhile (· ≠ 'e')).any Char.isDigit && isDecimalTail (cs.dropWhile Char.isDigit))
  | _ => false

/-- Whether a text may stand for a value: a pattern, or a number, which is none only if it
has a plus sign in front. -/
def isValue (text : List Char) : Bool :=
  (Pattern.compile? (String.ofList text)).isSome || isPositiveDecimal text

def read (text : List Char) : Except FilterFault FieldFilter :=
  match Text.splitAt (· = '=') text with
  | name :: value :: _ =>
    if isValue value then .ok ⟨String.ofList name, some (String.ofList value)⟩
    else .error .field
  | _ => .ok ⟨String.ofList text, none⟩

end FieldFilter

namespace LogDirective

/-- Where in a directive the reader stands, and where the piece being read begins. -/
inductive ReadState where
  | start
  | word (first : Nat)
  | span (first : Nat)
  | field (first : Nat)
  | fields
  | target
  | level (first : Nat)
deriving DecidableEq

def piece (text : List Char) (first last : Nat) : List Char := (text.drop first).take (last - first)

def pieceText (text : List Char) (first last : Nat) : String :=
  String.ofList (piece text first last)

def isStart (c : Char) : Bool :=
  ['-', ':', '_'].contains c || Text.alphabetic.contains c || Text.numeric.contains c

def addField (d : LogDirective) (text : List Char) : Except FilterFault LogDirective := do
  if text.isEmpty then .error .directive
  else return { d with fields := d.fields ++ [← FieldFilter.read text] }

def step (text : List Char) (place : Nat) (c : Char) (d : LogDirective) :
    ReadState → Except FilterFault (LogDirective × ReadState)
  | .start =>
    if c = '[' then .ok (d, .span (place + 1))
    else if isStart c then .ok (d, .word place)
    else .error .directive
  | .word first =>
    if c = '=' then .ok ({ d with target := some (pieceText text first place) }, .level (place + 1))
    else if c = '[' then
      .ok ({ d with target := some (pieceText text first place) }, .span (place + 1))
    else .ok (d, .word first)
  | .span first =>
    if c = ']' then .ok ({ d with span := some (pieceText text first place) }, .target)
    else if c = '\x7b' then
      let name := pieceText text first place
      .ok ({ d with span := if name.isEmpty then none else some name }, .field (place + 1))
    else .ok (d, .span first)
  | .field first =>
    if c = '\x7d' then do return (← d.addField (piece text first place), .fields)
    else .ok (d, .field first)
  | .fields => if c = ']' then .ok (d, .target) else .error .directive
  | .target => if c = '=' then .ok (d, .level (place + 1)) else .error .directive
  | .level first => .ok (d, .level first)

def readFrom (text : List Char) (place : Nat) (d : LogDirective) (state : ReadState) :
    List Char → Except FilterFault (LogDirective × ReadState)
  | [] => .ok (d, state)
  | c :: cs => do
    let (d, state) ← d.step text place c state
    readFrom text (place + 1) d state cs

/-- Ends a directive.  A word by itself is a level or else a target of every level. -/
def finish (text : List Char) (d : LogDirective) : ReadState → Except FilterFault LogDirective
  | .word first =>
    match LogLevel.read? (text.drop first) with
    | some level => .ok { d with level }
    | none => .ok { d with target := some (String.ofList (text.drop first)) }
  | .level first =>
    match text.drop first with
    | [] => .ok d
    | name =>
      match LogLevel.read? name with
      | some level => .ok { d with level }
      | none => .error .level
  | .target => .ok d
  | _ => .error .directive

/-- Reads a directive.  The end of a directive is its last character that is not blank, and
places are counted from its first, but pieces are cut out of the text with its blanks. -/
def read (text : List Char) : Except FilterFault LogDirective := do
  let (d, state) ← readFrom text 0 {} .start (Text.trimChars text)
  finish text d state

end LogDirective

namespace LogFilter

def read (text : String) : Except FilterFault (List LogDirective) :=
  (Text.words (· = ',') text.toList).mapM LogDirective.read

/-- The filter of an overriding text if there is one that reads, else that of a level. -/
def choose (level : String) (override : Option String) : Except FilterFault (List LogDirective) :=
  match override.map read with
  | some (.ok filter) => .ok filter
  | _ => read level

end LogFilter
end PermitPolicy
