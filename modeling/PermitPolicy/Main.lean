import Std.Time.Format
import PermitPolicy.Command.Run

/-! The program: its arguments, the environment, the files and the local date, given to the
run and its outcome printed. -/

namespace PermitPolicy.Main
open Command Calendar
set_option autoImplicit false

/-- The fault that an error of the operating system stands for. -/
def fileFault : IO.Error → FileFault
  | .noFileOrDirectory _ _ _ => .notFound
  | .inappropriateType _ 21 _ => .isDirectory
  | .inappropriateType _ 20 _ => .notDirectory
  | .permissionDenied _ code _ => .other s!"Permission denied (os error {code})"
  | e => .other (toString e)

def readFile (path : String) : IO (Except FileFault String) := do
  match ← (IO.FS.readBinFile path).toBaseIO with
  | .error e => return .error (fileFault e)
  | .ok bytes =>
    match String.fromUTF8? bytes with
    | some text => return .ok text
    | none => return .error (.other "stream did not contain valid UTF-8")

def entryOfLine? (line : List Char) : Option (String × String) :=
  (Text.splitOnce? '=' line).map fun (name, value) => (String.ofList name, String.ofList value)

def environment : IO (Table String) := do
  let bytes ← IO.FS.readBinFile "/proc/self/environ"
  let text := (String.fromUTF8? bytes).getD ""
  return .ofList ((Text.words (· = '\x00') text.toList).filterMap entryOfLine?)

def today : IO Date := do
  let now ← Std.Time.PlainDate.now
  match Date.of? now.year.toInt now.month.toNat now.day.toNat with
  | some d => return d
  | none => throw (IO.userError "the date is out of range")

end PermitPolicy.Main

open PermitPolicy

def main (arguments : List String) : IO UInt32 := do
  let around : Command.Surroundings :=
    { environment := ← PermitPolicy.Main.environment, today := ← PermitPolicy.Main.today }
  match ← Command.run PermitPolicy.Main.readFile around arguments with
  | .ended outcome =>
    IO.print outcome.stdout
    IO.eprint outcome.stderr
    return UInt32.ofNat outcome.exit
  | .listening _ address =>
    let fault := Fault.server s!"cannot listen on {address.write}"
    IO.eprintln s!"application error: {fault.message}"
    return 1
