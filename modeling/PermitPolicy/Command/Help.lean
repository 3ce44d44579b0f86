import PermitPolicy.Command.Line

/-! Help texts: what a command is for, how it is called, and a row for each command and
option, the rows of a list in two columns. -/

namespace PermitPolicy.Command
set_option autoImplicit false

def programName : String := "onroute-policy"
def executable : String := "onroute-policy-api"
def programVersion : String := "0.1.0"

structure HelpRow where
  name : String
  text : String
deriving DecidableEq

/-- The row of an option, in line with the flags that have a short form. -/
def Opt.row {σ : Type} (o : Opt σ) : HelpRow := ⟨"    " ++ o.label, o.help⟩

def helpRow : HelpRow := ⟨"-h, --help", "Print help"⟩
def versionRow : HelpRow := ⟨"-V, --version", "Print version"⟩

def blanks (n : Nat) : String := String.ofList (List.replicate n ' ')

/-- Rows under a heading, the names filled up to the longest. -/
def rowsUnder (heading : String) (rows : List HelpRow) : String :=
  let width := (rows.map fun r => r.name.length).foldl max 0
  let lines := rows.map fun r =>
    s!"  {r.name}" ++ blanks (width - r.name.length) ++ s!"  {r.text}\n"
  s!"{heading}:\n" ++ String.join lines

structure HelpPage where
  about : String
  usage : String
  lists : List String

namespace HelpPage

def render (p : HelpPage) : String :=
  s!"{p.about}\n\nUsage: {executable} {p.usage}\n" ++ String.join (p.lists.map ("\n" ++ ·))

end HelpPage

namespace Topic

def about : Topic → String
  | .program => "Validate commercial vehicle permit applications against a permit policy"
  | .serve => "Start the HTTP service (default command)"
  | .validate => "Validate a single permit application file and print the result"
  | .help => "Print this message or the help of the given subcommand(s)"

def usage : Topic → String
  | .program => "[COMMAND]"
  | .serve => "serve [OPTIONS]"
  | .validate => s!"validate [OPTIONS] {ValidateOptions.applicationOption.label}"
  | .help => "help [COMMAND]..."

def lists : Topic → List String
  | .program =>
    [rowsUnder "Commands"
        [⟨"serve", about .serve⟩, ⟨"validate", about .validate⟩, ⟨"help", about .help⟩],
      rowsUnder "Options" [helpRow, versionRow]]
  | .serve => [rowsUnder "Options" (ServeOptions.all.map Opt.row ++ [helpRow])]
  | .validate => [rowsUnder "Options" (ValidateOptions.all.map Opt.row ++ [helpRow])]
  | .help => [rowsUnder "Arguments" [⟨"[COMMAND]...", "Print help for the subcommand(s)"⟩]]

def page (t : Topic) : String := HelpPage.render ⟨t.about, t.usage, t.lists⟩

end Topic
end PermitPolicy.Command
