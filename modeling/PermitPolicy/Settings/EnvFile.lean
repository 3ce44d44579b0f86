import PermitPolicy.Basic
import PermitPolicy.Table
import PermitPolicy.Text.Word

/-! Files of environment variables.  Each line sets a variable; quoted text may run over
several lines, and `$name` stands for a variable set before.  A variable that is set already
keeps its value, and lines after a malformed one are not read. -/

namespace PermitPolicy.EnvFile
set_option autoImplicit false

abbrev Variables := Table String

inductive LineState where
  | plain | escape | blank
  | weak | weakEscape
  | strong | strongEscape
deriving DecidableEq

def LineState.enter (c : Char) : LineState :=
  match c with
  | '\\' => .escape
  | '"' => .weak
  | '\'' => .strong
  | _ => .plain

def LineState.next (c : Char) : LineState → LineState
  | .plain => if Text.isBlank c && c != '\n' && c != '\r' then .blank else .enter c
  | .blank => .enter c
  | .escape => .plain
  | .weak => if c = '\\' then .weakEscape else if c = '"' then .plain else .weak
  | .weakEscape => .weak
  | .strong => if c = '\\' then .strongEscape else if c = '\'' then .plain else .strong
  | .strongEscape => .strong

def afterBreak : List Char → List Char
  | [] => []
  | c :: cs => if c = '\n' then cs else afterBreak cs

/-- The rest of a line that reads on from `state`, and what follows it.  A line ends at a
break outside quotes or before a number sign after one blank; the text must not end inside
quotes, after a backslash or after a blank. -/
def takeLine (state : LineState) : List Char → Option (List Char × List Char)
  | [] => if state = .plain then some ([], []) else none
  | c :: cs =>
    if state = .blank ∧ c = '#' then some ([], afterBreak cs)
    else if state.next c = .plain ∧ c = '\n' then some ([], cs)
    else (takeLine (state.next c) cs).map fun (line, rest) => (c :: line, rest)

theorem length_afterBreak (cs : List Char) : (afterBreak cs).length ≤ cs.length := by
  induction cs with
  | nil => simp [afterBreak]
  | cons c cs ih =>
    unfold afterBreak
    split
    · simp
    · exact Nat.le_succ_of_le ih

theorem length_of_takeLine {state : LineState} {cs line rest : List Char}
    (h : takeLine state cs = some (line, rest)) (hcs : cs ≠ []) : rest.length < cs.length := by
  induction cs generalizing state line rest with
  | nil => exact absurd rfl hcs
  | cons c cs ih =>
    unfold takeLine at h
    split at h
    · cases h
      exact Nat.lt_succ_of_le (length_afterBreak cs)
    · split at h
      · cases h
        simp
      · obtain ⟨⟨l, r⟩, hr, h⟩ := Option.map_eq_some_iff.1 h
        cases h
        cases cs with
        | nil =>
          simp only [takeLine] at hr
          split at hr <;> simp at hr
          simp [← hr.2]
        | cons d ds =>
          have := ih hr (by simp)
          simp only [List.length_cons] at *
          omega

def startsComment (cs : List Char) : Bool :=
  (cs.dropWhile fun c => Text.isBlank c && c != '\n').head? == some '#'

def valueOf (vars : Variables) (name : List Char) : List Char :=
  ((vars.get? (String.ofList name)).getD "").toList

/-- Where in a value the reader stands; `weak` says whether inside double quotes. -/
inductive ValueState where
  | plain (weak : Bool)
  | escape (weak : Bool)
  | strong
  | done
  | name (weak : Bool) (read : List Char)
  | braced (weak : Bool) (read : List Char)
deriving DecidableEq

def isNameChar (c : Char) : Bool := Text.alphabetic.contains c || Text.numeric.contains c

def escaped? (c : Char) : Option Char :=
  if c = 'n' then some '\n' else if "\\'\"$ ".toList.contains c then some c else none

/-- What is read in a plain state: the characters to add and the next state. -/
def plainStep (weak : Bool) (c : Char) : List Char × ValueState :=
  if c = '$' then ([], .name weak [])
  else if c = '\\' then ([], .escape weak)
  else if c = '"' then ([], .plain !weak)
  else if weak then ([c], .plain weak)
  else if c = '\'' then ([], .strong)
  else if c = ' ' ∨ c = '\t' then ([], .done)
  else ([c], .plain weak)

/-- What is read after a dollar sign.  A character that ends the name stands for itself. -/
def nameStep (vars : Variables) (weak : Bool) (name : List Char) (c : Char) :
    List Char × ValueState :=
  if isNameChar c then ([], .name weak (name ++ [c]))
  else if c = '\x7b' ∧ name.isEmpty then ([], .braced weak [])
  else if c = '$' then (valueOf vars name, .name weak [])
  else (valueOf vars name ++ [c], .plain weak)

def valueStep (vars : Variables) (state : ValueState) (c : Char) :
    Option (List Char × ValueState) :=
  match state with
  | .plain weak => some (plainStep weak c)
  | .escape weak => (escaped? c).map fun d => ([d], .plain weak)
  | .strong => some (if c = '\'' then ([], .plain false) else ([c], .strong))
  | .done => if c = ' ' ∨ c = '\t' then some ([], .done) else none
  | .name weak name => some (nameStep vars weak name c)
  | .braced weak name =>
    if c = '\x7d' then some (valueOf vars name, .plain weak)
    else some ([], .braced weak (name ++ [c]))

def valueEnd (vars : Variables) : ValueState → Option (List Char)
  | .plain false | .escape false | .done => some []
  | .name false name => some (valueOf vars name)
  | _ => none

def readValue (vars : Variables) (state : ValueState) : List Char → Option (List Char)
  | [] => valueEnd vars state
  | c :: cs =>
    if state = .done ∧ c = '#' then some []
    else do
      let (added, next) ← valueStep vars state c
      return added ++ (← readValue vars next cs)

def isKeyStart (c : Char) : Bool := c.isAlpha || c = '_'

def isKeyChar (c : Char) : Bool := c.isAlphanum || c = '_' || c = '.'

def readKey (cs : List Char) : Option (List Char × List Char) :=
  match cs with
  | [] => none
  | c :: _ =>
    if isKeyStart c then
      let (key, rest) := cs.span isKeyChar
      some (key, Text.trimLeft rest)
    else none

/-- A key with its equals sign, after `export` if that is no key itself. -/
def readAssignment (cs : List Char) : Option (List Char × List Char) := do
  let (key, rest) ← readKey cs
  match rest with
  | '=' :: value => some (key, value)
  | _ =>
    if key = "export".toList then
      match ← readKey rest with
      | (key, '=' :: value) => some (key, value)
      | _ => none
    else none

def readLine (vars : Variables) (line : List Char) : Option (Option (String × String)) :=
  match Text.trimChars line with
  | [] => some none
  | '#' :: _ => some none
  | cs => do
    let (key, rest) ← readAssignment cs
    let value ←
      match Text.trimLeft rest with
      | [] => some []
      | '#' :: _ => some []
      | cs => readValue vars (.plain false) cs
    return some (String.ofList key, String.ofList value)

def setNew (vars : Variables) (entry : String × String) : Variables :=
  if vars.contains entry.1 then vars else vars.insert entry.1 entry.2

def mergeChars (vars : Variables) (cs : List Char) : Variables :=
  if hcs : cs = [] then vars
  else if startsComment cs then
    have : (afterBreak cs).length < cs.length := by
      cases cs with
      | nil => exact absurd rfl hcs
      | cons c cs =>
        have := length_afterBreak cs
        unfold afterBreak
        split
        · simp
        · exact Nat.lt_succ_of_le this
    mergeChars vars (afterBreak cs)
  else
    match h : takeLine .plain cs with
    | none => vars
    | some (line, rest) =>
      have := length_of_takeLine h hcs
      match readLine vars line with
      | none => vars
      | some none => mergeChars vars rest
      | some (some entry) => mergeChars (setNew vars entry) rest
termination_by cs.length

/-- The variables with those of a file's text, a byte order mark apart. -/
def merge (vars : Variables) (text : String) : Variables :=
  match text.toList with
  | '\ufeff' :: cs => mergeChars vars cs
  | cs => mergeChars vars cs

end PermitPolicy.EnvFile
