import PermitPolicy.Calendar.Read
import PermitPolicy.Command.Option
import PermitPolicy.Text.Numeral

/-! The program's commands: `serve`, which is meant where no command is given, `validate`,
and `help`. -/

namespace PermitPolicy.Command
open Calendar
set_option autoImplicit false

structure ServeOptions where
  host : Option String := none
  port : Option UInt16 := none
  policy : Option String := none
deriving DecidableEq

structure ValidateOptions where
  policy : Option String := none
  application : Option String := none
  today : Option Date := none
deriving DecidableEq

inductive Invocation where
  | serve (options : ServeOptions)
  | validate (policy : Option String) (application : String) (today : Option Date)
deriving DecidableEq

/-- Stores a path, which must not be empty. -/
def storePath {σ : Type} (set : String → σ → σ) (text : String) (s : σ) : Except ValueFault σ :=
  if text.isEmpty then .error .missing else .ok (set text s)

/-- A port number; one out of range is shown without its sign and leading zeros. -/
def readPort (text : String) : Except ValueFault UInt16 :=
  match Text.readInt text.toList with
  | .error fault => .error (.invalid text fault.message)
  | .ok n =>
    if 0 ≤ n ∧ n ≤ 65535 then .ok n.toNat.toUInt16
    else .error (.invalid (toString n) s!"{n} is not in 0..=65535")

namespace ServeOptions

def hostOption : Opt ServeOptions where
  name := "host"
  help := "Override the configured host for the HTTP server"
  store text s := .ok { s with host := some text }

def portOption : Opt ServeOptions where
  name := "port"
  help := "Override the configured port for the HTTP server"
  store text s := do return { s with port := some (← readPort text) }

def policyOption : Opt ServeOptions where
  name := "policy"
  help := "Override the configured policy definition file"
  store := storePath fun path s => { s with policy := some path }

def all : List (Opt ServeOptions) := [hostOption, portOption, policyOption]

end ServeOptions

namespace ValidateOptions

def policyOption : Opt ValidateOptions where
  name := "policy"
  help := "Policy definition file (defaults to POLICY_DEFINITION_PATH)"
  store := storePath fun path s => { s with policy := some path }

def applicationOption : Opt ValidateOptions where
  name := "application"
  help := "Permit application JSON file; `null` validates an empty application"
  store := storePath fun path s => { s with application := some path }

def todayOption : Opt ValidateOptions where
  name := "today"
  help := "Validation date (YYYY-MM-DD). Defaults to today"
  store text s :=
    match readDay text with
    | .ok d => .ok { s with today := some d }
    | .error fault => .error (.invalid text fault.message)

def all : List (Opt ValidateOptions) := [policyOption, applicationOption, todayOption]

end ValidateOptions

def readServe (arguments : List String) : Except Halt Invocation :=
  (readOptions .serve ServeOptions.all ⟨{}, [], none⟩ arguments).map .serve

def readValidate (arguments : List String) : Except Halt Invocation := do
  let o ← readOptions .validate ValidateOptions.all ⟨{}, [], none⟩ arguments
  match o.application with
  | some application => return Invocation.validate o.policy application o.today
  | none => fail .missingOptions

def topicOf? (name : String) : Option Topic :=
  match name with
  | "serve" => some .serve
  | "validate" => some .validate
  | "help" => some .help
  | _ => none

/-- The topic that `help` asks for; only the program itself has commands. -/
def readHelp : List String → Topic → Halt
  | [], topic => .help topic
  | name :: rest, .program =>
    match topicOf? name with
    | some topic => readHelp rest topic
    | none => .fault (.unknownCommand name)
  | name :: _, _ => .fault (.unknownCommand name)

def read (arguments : List String) : Except Halt Invocation :=
  match arguments with
  | [] => .ok (.serve {})
  | "serve" :: rest => readServe rest
  | "validate" :: rest => readValidate rest
  | "help" :: rest => .error (readHelp rest .program)
  | argument :: rest =>
    match Form.of argument with
    | .separator =>
      match rest with
      | [] => .ok (.serve {})
      | name :: _ =>
        fail (if (topicOf? name).isSome then .unexpected name else .unknownCommand name)
    | .long "help" none | .short 'h' => .error (.help .program)
    | .long "version" none | .short 'V' => .error .version
    | .long "help" (some value) => fail (.unneededValue value "--help")
    | .long "version" (some value) => fail (.unneededValue value "--version")
    | .long name _ => fail (.unexpected ("--" ++ name))
    | .short flag => fail (.unexpected s!"-{flag}")
    | .plain => fail (.unknownCommand argument)

end PermitPolicy.Command
