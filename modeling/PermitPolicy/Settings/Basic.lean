import PermitPolicy.Calendar.Format
import PermitPolicy.Network.Address
import PermitPolicy.Table
import PermitPolicy.Text.Numeral

/-! The settings of a run, from environment variables. -/

namespace PermitPolicy
open Calendar Network
set_option autoImplicit false

inductive Stage where
  | development | test | production
deriving DecidableEq

def Stage.label : Stage → String
  | .development => "Development"
  | .test => "Test"
  | .production => "Production"

/-- The stage of a name; any other name is development. -/
def Stage.named (text : String) : Stage :=
  let name := (Text.trimChars text.toList).map Char.toLower
  if name = "prod".toList ∨ name = "production".toList then .production
  else if name = "test".toList ∨ name = "ci".toList then .test
  else .development

inductive SettingsFault where
  | invalidPort
  | invalidHost
  | invalidDateFormat (text : String)
deriving DecidableEq

namespace SettingsFault

def message : SettingsFault → String
  | .invalidPort => "APP_PORT must be a valid u16"
  | .invalidHost => "APP_HOST must parse to an IPv4 or IPv6 address"
  | .invalidDateFormat text => s!"POLICY_DATE_FORMAT '{text}' is not a valid strftime format"

def causes : SettingsFault → List String
  | .invalidHost => ["invalid IP address syntax"]
  | _ => []

end SettingsFault

structure Settings where
  stage : Stage := .development
  host : String := "127.0.0.1"
  port : UInt16 := 3000
  logLevel : String := "info"
  definitionPath : String := "config/policy.json"
  dateFormat : DateFormat := .standard

namespace Settings

def port? (text : String) : Option UInt16 :=
  (Text.parseNat? (twoPow 16 - 1) text.toList).map Nat.toUInt16

def readPort (given : Option String) (default : UInt16) : Except SettingsFault UInt16 :=
  match given with
  | none => .ok default
  | some text =>
    match port? text with
    | some port => .ok port
    | none => .error .invalidPort

def readDateFormat (given : Option String) : Except SettingsFault DateFormat :=
  match given with
  | none => .ok .standard
  | some text =>
    match DateFormat.of? text with
    | some f => .ok f
    | none => .error (.invalidDateFormat text)

/-- The settings of environment variables; what is not set keeps its default. -/
def ofVariables (vars : Table String) : Except SettingsFault Settings := do
  let base : Settings := {}
  let port ← readPort (vars.get? "APP_PORT") base.port
  let dateFormat ← readDateFormat (vars.get? "POLICY_DATE_FORMAT")
  return {
    stage := .named ((vars.get? "APP_ENV").getD "development")
    host := (vars.get? "APP_HOST").getD base.host
    port
    logLevel := (vars.get? "APP_LOG_LEVEL").getD base.logLevel
    definitionPath := (vars.get? "POLICY_DEFINITION_PATH").getD base.definitionPath
    dateFormat }

/-- The address of a host, which is a number or the local host's name in any case. -/
def addressOf? (host : String) : Option IpAddress :=
  if host.toList.map Char.toLower = "localhost".toList then some .localHost
  else IpAddress.read? host

def socketAddress (s : Settings) : Except SettingsFault SocketAddress :=
  match addressOf? s.host with
  | some address => .ok ⟨address, s.port⟩
  | none => .error .invalidHost

end Settings
end PermitPolicy
