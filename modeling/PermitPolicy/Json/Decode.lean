import PermitPolicy.Json.Writer
import PermitPolicy.Text.Quoted

/-! Decoding documents into records.  A record is an object, or an array of its fields in
their declared order; unknown members are skipped.  Of several faults the one that stands
first in the document is reported, and a missing field stands after all that are there. -/

namespace PermitPolicy.Json
set_option autoImplicit false

inductive Expected where
  | string | boolean | sequence | map | int32 | int64 | unit | stringOrMap
  | record (name : String)
deriving DecidableEq

def Expected.message : Expected → String
  | .string => "a string"
  | .boolean => "a boolean"
  | .sequence => "a sequence"
  | .map => "a map"
  | .int32 => "i32"
  | .int64 => "i64"
  | .unit => "unit"
  | .stringOrMap => "string or map"
  | .record name => "struct " ++ name

inductive DecodeError where
  | missingField (name : String)
  | wrongType (found : Value) (expected : Expected)
  | wrongValue (found : Value) (expected : Expected)
  | tooShort (index : Nat) (record : String) (count : Nat)
  | tooLong (length : Nat)
  | noVariant (union : String)
  | unknownVariant (name : String) (choices : List String)
  | manyVariants
deriving DecidableEq

def Value.describe : Value → String
  | .null => "null"
  | .bool b => s!"boolean `{b}`"
  | .number (.int n) => s!"integer `{n}`"
  | .number (.double x) => s!"floating point `{Decimal.write Decimal.documentLayout x}`"
  | .string s => s!"string {Text.quoted s}"
  | .array _ => "sequence"
  | .object _ => "map"

def DecodeError.message : DecodeError → String
  | .missingField name => s!"missing field `{name}`"
  | .wrongType found expected => s!"invalid type: {found.describe}, expected {expected.message}"
  | .wrongValue found expected =>
    s!"invalid value: {found.describe}, expected {expected.message}"
  | .tooShort index record count =>
    s!"invalid length {index}, expected struct {record} with {count} elements"
  | .tooLong length => s!"invalid length {length}, expected fewer elements in array"
  | .noVariant union => s!"data did not match any variant of untagged enum {union}"
  | .unknownVariant name choices =>
    s!"unknown variant `{name}`, expected one of " ++
      ", ".intercalate (choices.map fun c => s!"`{c}`")
  | .manyVariants => "invalid value: map, expected map with a single key"

abbrev Decoder (α : Type) := Value → Except DecodeError α

namespace Decoder
variable {α : Type}

def string : Decoder String
  | .string s => .ok s
  | v => .error (.wrongType v .string)

def bool : Decoder Bool
  | .bool b => .ok b
  | v => .error (.wrongType v .boolean)

/-- Whole numbers from `-2 ^ bits` up to, but without, `2 ^ bits`. -/
def signed (bits : Nat) (expected : Expected) : Decoder Int
  | .number (.int n) =>
    if -(twoPow bits : Int) ≤ n ∧ n < twoPow bits then .ok n
    else .error (.wrongValue (.number (.int n)) expected)
  | v => .error (.wrongType v expected)

def int32 : Decoder Int := signed 31 .int32

def int64 : Decoder Int := signed 63 .int64

def any : Decoder Value := .ok

def list (item : Decoder α) : Decoder (List α)
  | .array items => items.mapM item
  | v => .error (.wrongType v .sequence)

def table (item : Decoder α) : Decoder (Table α)
  | .object ms => do
    return .ofList (← ms.mapM fun m => do return (m.1, ← item m.2))
  | v => .error (.wrongType v .map)

def nullable (item : Decoder α) : Decoder (Option α)
  | .null => .ok none
  | v => (item v).map some

def orDefault (default : α) (item : Decoder α) : Decoder α
  | .null => .ok default
  | v => item v

end Decoder

structure Record where
  name : String
  fields : List String
  /-- Whether an array of the fields stands for the record. -/
  positional : Bool

/-- What a document holds of a record, in document order. -/
structure Source where
  record : Record
  present : List (String × Value)
  positional : Bool

def Source.of (record : Record) : Decoder Source
  | .object ms => .ok ⟨record, ms, false⟩
  | .array items =>
    if record.positional then .ok ⟨record, record.fields.zip items, true⟩
    else .error (.wrongType (.array items) (.record record.name))
  | v => .error (.wrongType v (.record record.name))

/-- An error and how far into the document it stands. -/
structure Ranked where
  rank : Nat
  error : DecodeError

def Fields (α : Type) : Type := Source → Except Ranked α

namespace Fields
variable {α β : Type}

def pure (a : α) : Fields α := fun _ => .ok a

/-- Reads two lots of fields; of two faults the one of the lower rank counts. -/
def seq (f : Fields (α → β)) (x : Fields α) : Fields β := fun s =>
  match f s, x s with
  | .ok g, .ok a => .ok (g a)
  | .ok _, .error e => .error e
  | .error e, .ok _ => .error e
  | .error e, .error e' => .error (if e'.rank < e.rank then e' else e)

instance : Applicative Fields where
  pure := pure
  seq f x := seq f (x ())

def find (name : String) : Nat → List (String × Value) → Option (Nat × Value)
  | _, [] => none
  | i, (k, v) :: rest => if k = name then some (i, v) else find name (i + 1) rest

def field (name : String) (decode : Decoder α) (missing : Source → Except Ranked α) :
    Fields α := fun s =>
  match find name 0 s.present with
  | some (i, v) =>
    match decode v with
    | .ok a => .ok a
    | .error e => .error ⟨i, e⟩
  | none => missing s

def required (name : String) (decode : Decoder α) : Fields α :=
  field name decode fun s => .error ⟨s.present.length,
    if s.positional then
      .tooShort (s.record.fields.idxOf name) s.record.name s.record.fields.length
    else .missingField name⟩

def withDefault (name : String) (default : α) (decode : Decoder α) : Fields α :=
  field name decode fun _ => .ok default

def optional (name : String) (decode : Decoder α) : Fields (Option α) :=
  withDefault name none decode.nullable

def orDefault (name : String) (default : α) (decode : Decoder α) : Fields α :=
  withDefault name default (decode.orDefault default)

def others : Fields (Table Value) := fun s =>
  .ok (.ofList (s.present.filter fun m => !s.record.fields.contains m.1))

def decode (record : Record) (fields : Fields α) : Decoder α := fun v => do
  let s ← Source.of record v
  match fields s with
  | .error e => .error e.error
  | .ok a =>
    match v with
    | .array items =>
      if record.fields.length < items.length then .error (.tooLong items.length) else .ok a
    | _ => .ok a

end Fields

def member? (key : String) : Option Value → List (String × Value)
  | some v => [(key, v)]
  | none => []

def Value.ofOption {α : Type} (encode : α → Value) : Option α → Value
  | some a => encode a
  | none => .null

end PermitPolicy.Json
