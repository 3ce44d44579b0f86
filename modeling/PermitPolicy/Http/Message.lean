import PermitPolicy.Fault

/-! Requests and responses of the service. -/

namespace PermitPolicy.Http
open Json
set_option autoImplicit false

structure Request where
  method : String
  target : String
  contentType : Option String := none
  body : String := ""
deriving DecidableEq

structure Response where
  status : Nat
  contentType : Option String := none
  allow : Option String := none
  body : String := ""
deriving DecidableEq

namespace Response

def json (status : Nat) (v : Value) : Response :=
  { status, contentType := some "application/json", body := v.compact }

def text (status : Nat) (body : String) : Response :=
  { status, contentType := some "text/plain; charset=utf-8", body }

def error (status : Nat) (message : String) : Response :=
  json status (.object [("error", .string message)])

def notFound : Response := { status := 404 }

def methodNotAllowed (allow : String) : Response := { status := 405, allow := some allow }

/-- Only an application that does not read is the fault of whoever sent it. -/
def ofFault (fault : Fault) : Response :=
  match fault with
  | .application _ => error 400 fault.message
  | _ => error 500 fault.message

def withoutBody (r : Response) : Response := { r with body := "" }

end Response

namespace Request

def beforeQuery (cs : List Char) : List Char := cs.takeWhile fun c => c ≠ '?' && c ≠ '#'

def afterScheme? : List Char → Option (List Char)
  | ':' :: '/' :: '/' :: rest => some rest
  | _ :: cs => afterScheme? cs
  | [] => none

/-- The path that a request is for; that of a full address follows its host. -/
def path (r : Request) : String :=
  let cs := beforeQuery r.target.toList
  if cs.head? = some '/' then String.ofList cs
  else
    match (afterScheme? cs).map fun rest => rest.dropWhile (· ≠ '/') with
    | some [] => "/"
    | some path => String.ofList path
    | none => String.ofList cs

end Request

def hexDigit? (c : Char) : Option UInt8 :=
  if c.isDigit then some (c.toNat - '0'.toNat).toUInt8
  else if ('a' ≤ c ∧ c ≤ 'f') ∨ ('A' ≤ c ∧ c ≤ 'F') then
    some (c.toLower.toNat - 'a'.toNat + 10).toUInt8
  else none

def percentDecode : List Char → List UInt8
  | '%' :: a :: b :: rest =>
    match hexDigit? a, hexDigit? b with
    | some high, some low => (high * 16 + low) :: percentDecode rest
    | _, _ => '%'.toUInt8 :: percentDecode (a :: b :: rest)
  | c :: rest => (String.singleton c).toUTF8.toList ++ percentDecode rest
  | [] => []

def decodeSegment? (segment : String) : Option String :=
  String.fromUTF8? ⟨(percentDecode segment.toList).toArray⟩

end PermitPolicy.Http
