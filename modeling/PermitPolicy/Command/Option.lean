import PermitPolicy.Basic

/-! Options of a command.  An option has a long name and one value, which stands in the same
argument after an equals sign or is the next argument; after two dashes by themselves no
option is read. -/

namespace PermitPolicy.Command
set_option autoImplicit false

inductive Topic where
  | program | serve | validate | help
deriving DecidableEq

inductive ArgumentFault where
  | missingValue (option : String)
  | invalidValue (value option cause : String)
  | repeatedOption (option : String)
  | missingOptions
  | unexpected (argument : String)
  | unneededValue (value flag : String)
  | unknownCommand (name : String)
deriving DecidableEq

def ArgumentFault.message : ArgumentFault → String
  | .missingValue option => s!"a value is required for '{option}' but none was supplied"
  | .invalidValue value option cause => s!"invalid value '{value}' for '{option}': {cause}"
  | .repeatedOption option => s!"the argument '{option}' cannot be used multiple times"
  | .missingOptions => "the following required arguments were not provided:"
  | .unexpected argument => s!"unexpected argument '{argument}' found"
  | .unneededValue value flag =>
    s!"unexpected value '{value}' for '{flag}' found; no more were expected"
  | .unknownCommand name => s!"unrecognized subcommand '{name}'"

inductive Halt where
  | fault (cause : ArgumentFault)
  | help (topic : Topic)
  | version
deriving DecidableEq

def fail {α : Type} (cause : ArgumentFault) : Except Halt α := .error (.fault cause)

inductive ValueFault where
  | missing
  | invalid (shown cause : String)
deriving DecidableEq

/-- An option that puts its value into settings of type `σ`. -/
structure Opt (σ : Type) where
  name : String
  help : String
  store : String → σ → Except ValueFault σ

namespace Opt
variable {σ : Type}

def label (o : Opt σ) : String := s!"--{o.name} <{o.name.toUpper}>"

end Opt

inductive Form where
  | separator
  | long (name : String) (value : Option String)
  | short (flag : Char)
  | plain
deriving DecidableEq

/-- The form of an argument; one dash by itself is plain. -/
def Form.of (argument : String) : Form :=
  match argument.toList with
  | ['-', '-'] => .separator
  | '-' :: '-' :: cs =>
    match Text.splitOnce? '=' cs with
    | some (name, value) => .long (String.ofList name) (some (String.ofList value))
    | none => .long (String.ofList cs) none
  | '-' :: c :: _ => .short c
  | _ => .plain

/-- What has been read: the settings, the names of the options stored in them, and an option
whose value is awaited or not yet stored. -/
structure Progress (σ : Type) where
  settings : σ
  stored : List String := []
  pending : Option (Opt σ × Option String) := none

namespace Progress
variable {σ : Type}

def add (p : Progress σ) (o : Opt σ) (value : String) : Except Halt (Progress σ) :=
  if p.stored.contains o.name then fail (.repeatedOption o.label)
  else
    match o.store value p.settings with
    | .ok settings => .ok { settings, stored := o.name :: p.stored }
    | .error .missing => fail (.missingValue o.label)
    | .error (.invalid shown cause) => fail (.invalidValue shown o.label cause)

def settle (p : Progress σ) : Except Halt (Progress σ) :=
  match p.pending with
  | none => .ok p
  | some (o, none) => fail (.missingValue o.label)
  | some (o, some value) => { p with pending := none }.add o value

end Progress

/-- What a flag without a value leads to, if what came before it is in order. -/
def halt {σ α : Type} (p : Progress σ) (reason : Halt) : Except Halt α := do
  let _ ← p.settle
  .error reason

variable {σ : Type}

def readOptions (topic : Topic) (options : List (Opt σ)) (p : Progress σ) :
    List String → Except Halt σ
  | [] => p.settle.map Progress.settings
  | argument :: rest =>
    match Form.of argument with
    | .separator =>
      match rest with
      | [] => p.settle.map Progress.settings
      | extra :: _ => fail (.unexpected extra)
    | .long "help" none => halt p (.help topic)
    | .long "help" (some value) => fail (.unneededValue value "--help")
    | .long name value? =>
      match options.find? fun o => o.name == name, value? with
      | none, _ => fail (.unexpected ("--" ++ name))
      | some o, some value => do
        let p ← (← p.settle).add o value
        readOptions topic options p rest
      | some o, none => do
        let p ← p.settle
        readOptions topic options { p with pending := some (o, none) } rest
    | .short 'h' => halt p (.help topic)
    | .short flag => fail (.unexpected s!"-{flag}")
    | .plain =>
      match p.pending with
      | some (o, none) =>
        readOptions topic options { p with pending := some (o, some argument) } rest
      | _ => fail (.unexpected argument)

end PermitPolicy.Command
