import PermitPolicy.Command.Help
import PermitPolicy.Http.Service
import PermitPolicy.Settings.EnvFile

/-! Runs of the program: from arguments, environment variables and files to an outcome, or
to a service that is ready to listen. -/

namespace PermitPolicy.Command
open Calendar Network
set_option autoImplicit false

structure Outcome where
  exit : Nat := 0
  stdout : String := ""
  stderr : String := ""
deriving DecidableEq

inductive Result where
  | ended (outcome : Outcome)
  | listening (service : Http.Service) (address : SocketAddress)

structure Surroundings where
  environment : Table String
  today : Date

namespace Outcome

def ofFault (fault : Fault) : Outcome :=
  { exit := 1, stderr := s!"application error: {fault.message}\n" }

/-- A halt while reading the arguments; faults also point to the help. -/
def ofHalt : Halt → Outcome
  | .fault cause =>
    { exit := 2, stderr := s!"error: {cause.message}\n\nFor more information, try '--help'.\n" }
  | .help topic => { stdout := topic.page }
  | .version => { stdout := s!"{programName} {programVersion}\n" }

def summary (r : Report) : String :=
  let verdict := if r.isValid then "valid" else "invalid"
  s!"{verdict}: {r.violations.length} violation(s), {r.requirements.length} requirement(s), " ++
    s!"{r.warnings.length} warning(s), {r.information.length} information"

def ofReport (r : Report) : Outcome :=
  { stdout := r.encode.indented ++ "\n", stderr := summary r ++ "\n" }

end Outcome

section
variable {m : Type → Type} [Monad m] (readFile : String → m (Except FileFault String))

def loadVariables (given : Table String) : m (Table String) := do
  match ← readFile ".env" with
  | .ok text => return EnvFile.merge given text
  | .error _ => return given

def loadText (path : String) : ExceptT Fault m String := do
  match ← readFile path with
  | .ok text => return text
  | .error cause => throw (.file cause)

def loadPolicy (path : String) (format : DateFormat) (today : Date) : ExceptT Fault m Policy := do
  match Policy.ofText (← loadText readFile path) today with
  | .ok p => return p.withDateFormat format
  | .error cause => throw (.policy cause)

def loadSettings (environment : Table String) : ExceptT Fault m Settings := do
  match Settings.ofVariables environment with
  | .ok s => return s
  | .error cause => throw (.settings cause)

def validateFiles (around : Surroundings) (policy : Option String) (application : String)
    (today : Option Date) : ExceptT Fault m Report := do
  let environment ← ExceptT.lift (loadVariables readFile around.environment)
  let settings ← loadSettings environment
  let path := policy.getD settings.definitionPath
  let p ← loadPolicy readFile path settings.dateFormat (today.getD around.today)
  match Json.read (← loadText readFile application) with
  | .ok document => return p.validateDocument document
  | .error cause => throw (.application cause)

def ServeOptions.override (o : ServeOptions) (s : Settings) : Settings :=
  { s with
    host := o.host.getD s.host
    port := o.port.getD s.port
    definitionPath := o.policy.getD s.definitionPath }

/-- The service of the configured policy and where it listens.  The log filter is checked
before the policy is read, the address after. -/
def prepare (around : Surroundings) (o : ServeOptions) :
    ExceptT Fault m (Http.Service × SocketAddress) := do
  let environment ← ExceptT.lift (loadVariables readFile around.environment)
  let settings := o.override (← loadSettings environment)
  match logFilter settings.logLevel (environment.get? "RUST_LOG") with
  | .error cause => throw (.logging cause)
  | .ok _ => pure ()
  let policy ← loadPolicy readFile settings.definitionPath settings.dateFormat around.today
  match settings.socketAddress with
  | .error cause => throw (.settings cause)
  | .ok address => return ({ policy, ready := true }, address)

def Invocation.run (around : Surroundings) : Invocation → m Result
  | .serve o => do
    match ← (prepare readFile around o).run with
    | .ok (service, address) => return .listening service address
    | .error fault => return .ended (.ofFault fault)
  | .validate policy application today => do
    match ← (validateFiles readFile around policy application today).run with
    | .ok report => return .ended (.ofReport report)
    | .error fault => return .ended (.ofFault fault)

def run (around : Surroundings) (arguments : List String) : m Result :=
  match read arguments with
  | .ok command => command.run readFile around
  | .error reason => return .ended (.ofHalt reason)

end

/-- A run with the files of a directory tree. -/
def runIn (files : Directory) (around : Surroundings) (arguments : List String) : Result :=
  Id.run (run (fun path => pure (files.read path)) around arguments)

end PermitPolicy.Command
