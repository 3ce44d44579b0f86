import PermitPolicy.Pattern.Tree
import PermitPolicy.Text.CaseFolding
import PermitPolicy.Text.Category
import PermitPolicy.Text.Script
import PermitPolicy.Text.ScriptExtension
import PermitPolicy.Text.Trait

/-! Properties of characters by name.  Case, blanks, dashes and low lines in a name do not
count, nor does `is` in front of it. -/

namespace PermitPolicy.Pattern
open Text (CharSet)
set_option autoImplicit false

/-- A name without the differences that do not count. -/
def normalizeName (name : String) : String :=
  let cs := name.toList
  let body := match cs with
    | a :: b :: rest => if (a = 'i' || a = 'I') && (b = 's' || b = 'S') then rest else cs
    | _ => cs
  let kept := (body.filter fun c => c ≠ ' ' && c ≠ '_' && c ≠ '-' && c.toNat < 128).map Char.toLower
  if body.length < cs.length && kept = ['c'] then "isc" else String.ofList kept

def lookUp? (table : List (List String × List String)) (name : String) : Option CharSet :=
  (table.find? fun entry => entry.1.contains name).map fun entry => .ofTable entry.2

def category? (name : String) : Option CharSet :=
  match name with
  | "any" => some .full
  | "ascii" => some (.ofSpans [⟨0, 127⟩])
  | "assigned" => (lookUp? Text.categories "cn").map CharSet.compl
  | name => lookUp? Text.categories name

def scriptExtension? (name : String) : Option CharSet :=
  (lookUp? Text.scriptExtensions name).orElse fun _ => lookUp? Text.scripts name

/-- Names of other properties that a category has too. -/
def categoryFirst : List String := ["cf", "sc", "lc"]

namespace PropertyQuery

def resolve? : PropertyQuery → Option CharSet
  | .name written =>
    let key := normalizeName written
    let trait := if categoryFirst.contains key then none else lookUp? Text.traits key
    ((trait.orElse fun _ => category? key).orElse fun _ => lookUp? Text.scripts key)
  | .value property written =>
    let key := normalizeName written
    match normalizeName property with
    | "gc" | "generalcategory" => category? key
    | "sc" | "script" => lookUp? Text.scripts key
    | "scx" | "scriptextensions" => scriptExtension? key
    | _ => none

end PropertyQuery
end PermitPolicy.Pattern
