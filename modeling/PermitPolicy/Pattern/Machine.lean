import PermitPolicy.Text.CharSet
import PermitPolicy.Text.Word

/-! Searching for patterns.  A piece of a pattern turns the places of a text where it may
begin into the places where it may then end; places are kept in ascending order.  A text has
a match if some place can be reached from any place in it. -/

namespace PermitPolicy.Pattern
open Text (CharSet)
set_option autoImplicit false

/-- A condition on a place of the text.  Word characters are those of any script, or of
ASCII alone. -/
inductive Look where
  | textStart | textEnd
  | lineStart | lineEnd
  | lineStartOrReturn | lineEndOrReturn
  | boundary (unicode : Bool) | notBoundary (unicode : Bool)
  | wordStart (unicode : Bool) | wordEnd (unicode : Bool)
  | wordStartHalf (unicode : Bool) | wordEndHalf (unicode : Bool)
deriving DecidableEq

inductive Node where
  | empty
  | chars (set : CharSet)
  | look (what : Look)
  | seq (items : List Node)
  | alt (branches : List Node)
  | loop (inner : Node) (least : Nat) (most : Option Nat)
  | capture (inner : Node)

instance : Inhabited Node := ⟨.empty⟩

def asciiWordChars : CharSet := .ofSpans [⟨48, 57⟩, ⟨65, 90⟩, ⟨95, 95⟩, ⟨97, 122⟩]

def isWordChar (unicode : Bool) (c : Char) : Bool :=
  if unicode then Text.wordChars.contains c else asciiWordChars.contains c

def Look.holds (before after : Option Char) : Look → Bool
  | .textStart => before.isNone
  | .textEnd => after.isNone
  | .lineStart => before.all (· = '\n')
  | .lineEnd => after.all (· = '\n')
  | .lineStartOrReturn => before.all fun c => c = '\n' || (c = '\r' && after ≠ some '\n')
  | .lineEndOrReturn => after.all fun c => c = '\r' || (c = '\n' && before ≠ some '\r')
  | .boundary u => before.any (isWordChar u) != after.any (isWordChar u)
  | .notBoundary u => before.any (isWordChar u) == after.any (isWordChar u)
  | .wordStart u => !before.any (isWordChar u) && after.any (isWordChar u)
  | .wordEnd u => before.any (isWordChar u) && !after.any (isWordChar u)
  | .wordStartHalf u => !before.any (isWordChar u)
  | .wordEndHalf u => !after.any (isWordChar u)

def before? (text : Array Char) (i : Nat) : Option Char :=
  if i = 0 then none else text[i - 1]?

def mergePlaces : List Nat → List Nat → List Nat
  | [], ys => ys
  | xs, [] => xs
  | x :: xs, y :: ys =>
    if x < y then x :: mergePlaces xs (y :: ys)
    else if y < x then y :: mergePlaces (x :: xs) ys
    else x :: mergePlaces xs ys
termination_by xs ys => xs.length + ys.length

def dropPlaces : List Nat → List Nat → List Nat
  | [], _ => []
  | xs, [] => xs
  | x :: xs, y :: ys =>
    if x < y then x :: dropPlaces xs (y :: ys)
    else if y < x then dropPlaces (x :: xs) ys
    else dropPlaces xs ys
termination_by xs ys => xs.length + ys.length

/-- Takes a step so many times, unless no place is left. -/
def repeatStep (step : List Nat → List Nat) : (times : Nat) → List Nat → List Nat
  | 0, places => places
  | times + 1, places =>
    if places.isEmpty then [] else repeatStep step times (step places)

/-- The places reached in at most so many steps from `fresh`, together with `seen`. -/
def spread (step : List Nat → List Nat) : (times : Nat) → (seen fresh : List Nat) → List Nat
  | 0, seen, _ => seen
  | times + 1, seen, fresh =>
    let new := dropPlaces (step fresh) seen
    if new.isEmpty then seen else spread step times (mergePlaces seen new) new

namespace Node

mutual
/-- The places where a match may end that begins at one of the given places. -/
def reach (text : Array Char) : Node → List Nat → List Nat
  | .empty, places => places
  | .chars set, places =>
    places.filterMap fun i =>
      match text[i]? with
      | some c => if set.contains c then some (i + 1) else none
      | none => none
  | .look what, places => places.filter fun i => what.holds (before? text i) text[i]?
  | .seq items, places => reachSeq text items places
  | .alt branches, places => reachAlt text branches places
  | .loop inner least most, places =>
    let start := repeatStep (reach text inner) least places
    -- without an upper bound, each step that helps finds a new place of the text
    let times := match most with
      | some most => most - least
      | none => text.size + 1
    spread (reach text inner) times start start
  | .capture inner, places => reach text inner places

def reachSeq (text : Array Char) : List Node → List Nat → List Nat
  | [], places => places
  | n :: rest, places =>
    let next := reach text n places
    if next.isEmpty then [] else reachSeq text rest next

def reachAlt (text : Array Char) : List Node → List Nat → List Nat
  | [], _ => []
  | n :: rest, places => mergePlaces (reach text n places) (reachAlt text rest places)
end

def occursIn (n : Node) (text : String) : Bool :=
  let cs := text.toList.toArray
  !(n.reach cs (List.range (cs.size + 1))).isEmpty

end Node
end PermitPolicy.Pattern
