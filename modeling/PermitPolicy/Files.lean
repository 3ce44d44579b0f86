import PermitPolicy.Basic
import PermitPolicy.Table

/-! Text files by path, and a directory tree given as a table of its files. -/

namespace PermitPolicy
set_option autoImplicit false

inductive FileFault where
  | notFound | isDirectory | notDirectory
  | other (text : String)
deriving DecidableEq

def FileFault.message : FileFault → String
  | .notFound => "No such file or directory (os error 2)"
  | .isDirectory => "Is a directory (os error 21)"
  | .notDirectory => "Not a directory (os error 20)"
  | .other text => text

/-- Texts of files by their names, the parts of a name having slashes between them. -/
abbrev Directory := Table String

namespace Directory

def nameOf (parts : List String) : String := "/".intercalate parts

def isDirectory (d : Directory) (parts : List String) : Bool :=
  parts.isEmpty || d.keys.any fun k => (nameOf parts ++ "/").toList.isPrefixOf k.toList

/-- Follows the parts of a path from `here`, the names of the directories entered so far. -/
def readFrom (d : Directory) (here : List String) : List String → Except FileFault String
  | [] => .error .isDirectory
  | part :: rest =>
    if part = "" ∨ part = "." then readFrom d here rest
    else if part = ".." then
      if here.isEmpty then .error .notFound else readFrom d here.dropLast rest
    else
      let next := here ++ [part]
      match d.get? (nameOf next) with
      | some text => if rest.isEmpty then .ok text else .error .notDirectory
      | none => if d.isDirectory next then readFrom d next rest else .error .notFound

def read (d : Directory) (path : String) : Except FileFault String :=
  let parts := (Text.splitAt (· = '/') path.toList).map String.ofList
  if path = "" then .error .notFound
  else if parts.head? = some "" then .error .notFound
  else d.readFrom [] parts

end Directory
end PermitPolicy
