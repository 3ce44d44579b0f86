import PermitPolicy.Basic

/-! Media types, such as `application/json; charset=utf-8`. -/

namespace PermitPolicy.Http
set_option autoImplicit false

def isTokenChar (c : Char) : Bool := c.isAlphanum || "!#$%&'+-.^_`|~".toList.contains c

def isQuotedChar (c : Char) : Bool := ' ' ≤ c && c.toNat < 127

inductive ParameterState where
  | gap | name | valueStart | value | quoteStart | quoted | closed
deriving DecidableEq

namespace ParameterState

/-- The state after a character.  A quoted value has at least one character. -/
def next? (c : Char) : ParameterState → Option ParameterState
  | .gap => if c = ' ' then some .gap else if isTokenChar c then some .name else none
  | .name => if isTokenChar c then some .name else if c = '=' then some .valueStart else none
  | .valueStart =>
    if c = '"' then some .quoteStart else if isTokenChar c then some .value else none
  | .value => if isTokenChar c then some .value else if c = ';' then some .gap else none
  | .quoteStart => if isQuotedChar c then some .quoted else none
  | .quoted => if c = '"' then some .closed else if isQuotedChar c then some .quoted else none
  | .closed => if c = ';' then some .gap else if c = ' ' then some .closed else none

def isEnd : ParameterState → Bool
  | .gap | .valueStart | .value | .closed => true
  | _ => false

end ParameterState

def areParameters (cs : List Char) : Bool :=
  (cs.foldlM (fun state c => ParameterState.next? c state) .gap).any (·.isEnd)

/-- A type and its subtype in lower case; a suffix follows the last plus sign. -/
structure MediaType where
  type : String
  subtype : String
  suffix : Option String
deriving DecidableEq

namespace MediaType

def lower (cs : List Char) : String := String.ofList (cs.map Char.toLower)

/-- The subtype and the suffix; a plus sign in front is part of the subtype. -/
def cutSuffix (cs : List Char) : String × Option String :=
  match Text.splitOnce? '+' cs.reverse with
  | some (suffix, before) =>
    if before.isEmpty then (lower cs, none)
    else (lower before.reverse, some (lower suffix.reverse))
  | none => (lower cs, none)

def read? (text : String) : Option MediaType := do
  let (type, rest) ← Text.splitOnce? '/' text.toList
  let (name, parameters) := (Text.splitOnce? ';' rest).getD (rest, [])
  let unnamed := name.isEmpty && rest.contains ';'
  if type.isEmpty || unnamed || !(type ++ name).all isTokenChar || !areParameters parameters then
    none
  else
    let (subtype, suffix) := cutSuffix name
    return ⟨lower type, subtype, suffix⟩

def isJson (m : MediaType) : Bool :=
  m.type == "application" && (m.subtype == "json" || m.suffix == some "json")

end MediaType
end PermitPolicy.Http
