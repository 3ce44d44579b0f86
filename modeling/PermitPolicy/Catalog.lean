import PermitPolicy.Json.Decode

/-! Catalogs: entries with an id and a display name, in the order they are listed.  An entry
list may repeat an id; in a table of names the last entry of an id counts. -/

namespace PermitPolicy
open Json
set_option autoImplicit false

structure CatalogEntry where
  id : String
  name : String
  category : Option String := none
deriving DecidableEq, Inhabited

namespace CatalogEntry

def record : Record := ⟨"IdentifiedObject", ["id", "name", "category"], true⟩

def fields : Fields CatalogEntry :=
  CatalogEntry.mk <$> Fields.required "id" .string <*> Fields.required "name" .string
    <*> Fields.optional "category" .string

def decode : Decoder CatalogEntry := Fields.decode record fields

def encode (e : CatalogEntry) : Value :=
  .object (member? "category" (e.category.map .string) ++
    [("id", .string e.id), ("name", .string e.name)])

end CatalogEntry

abbrev NameTable := Table String

namespace Catalog

def names (entries : List CatalogEntry) : NameTable :=
  .ofList (entries.map fun e => (e.id, e.name))

/-- The entries with one of the ids, in catalog order. -/
def select (entries : List CatalogEntry) (ids : List String) : List CatalogEntry :=
  entries.filter fun e => ids.contains e.id

/-- The entries of the left table whose id is also in the right one. -/
def shared (left right : NameTable) : NameTable := left.filterKeys right.contains

def pick (table : NameTable) (ids : List String) : NameTable :=
  .ofList (ids.filterMap fun id => (table.get? id).map fun name => (id, name))

/-- The first id that equals one seen before it. -/
def firstRepeatAfter (seen : List String) : List String → Option String
  | [] => none
  | id :: rest => if seen.contains id then some id else firstRepeatAfter (id :: seen) rest

def firstRepeat (ids : List String) : Option String := firstRepeatAfter [] ids

def encodeNames (table : NameTable) : Value :=
  .object (table.entries.map fun e => (e.1, .string e.2))

end Catalog
end PermitPolicy
