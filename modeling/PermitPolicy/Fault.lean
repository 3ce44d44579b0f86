import PermitPolicy.Files
import PermitPolicy.Policy
import PermitPolicy.Settings.Basic
import PermitPolicy.Settings.LogFilter

/-! What may stop a run: its text, and the causes behind it. -/

namespace PermitPolicy
open Json
set_option autoImplicit false

inductive LogFault where
  | invalidFilter (text : String) (cause : FilterFault)
  | subscriber (text : String)
deriving DecidableEq

namespace LogFault

def message : LogFault → String
  | .invalidFilter text _ => s!"invalid log filter '{text}' for the policy engine"
  | .subscriber text => "unable to install subscriber: " ++ text

def causes : LogFault → List String
  | .invalidFilter _ cause => cause.message :: cause.causes
  | .subscriber text => [text]

end LogFault

/-- The log filter of a level, which a text that reads as one overrides. -/
def logFilter (level : String) (override : Option String) : Except LogFault (List LogDirective) :=
  (LogFilter.choose level override).mapError (.invalidFilter level)

def PolicyError.causes : PolicyError → List String
  | .unreadable cause => [cause.message]
  | .malformed cause => [cause.message]
  | .invalidRule _ cause => [cause.message]
  | _ => []

inductive Fault where
  | settings (cause : SettingsFault)
  | logging (cause : LogFault)
  | file (cause : FileFault)
  | server (text : String)
  | policy (cause : PolicyError)
  | application (cause : ReadError)
  | output (cause : ReadError)
deriving DecidableEq

namespace Fault

def message : Fault → String
  | .settings cause => "configuration error: " ++ cause.message
  | .logging cause => "telemetry error: " ++ cause.message
  | .file cause => "io error: " ++ cause.message
  | .server text => "server error: " ++ text
  | .policy cause => "policy error: " ++ cause.message
  | .application cause => "permit application could not be read: " ++ cause.message
  | .output cause => "failed to encode output: " ++ cause.message

def causes : Fault → List String
  | .settings cause => cause.message :: cause.causes
  | .logging cause => cause.message :: cause.causes
  | .file cause => [cause.message]
  | .server text => [text, text]
  | .policy cause => cause.message :: cause.causes
  | .application cause => [cause.message]
  | .output cause => [cause.message]

end Fault
end PermitPolicy
