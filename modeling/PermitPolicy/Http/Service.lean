import PermitPolicy.Http.MediaType
import PermitPolicy.Http.Message

/-! The service of a policy: what each path answers. -/

namespace PermitPolicy.Http
open Json
set_option autoImplicit false

structure Service where
  policy : Policy
  ready : Bool := false
  metrics : String := ""

inductive Route where
  | policy
  | vehicles (permitType : String)
  | validate
  | health | ready | metrics
deriving DecidableEq

namespace Route

def pathParts (path : String) : List String :=
  (Text.splitAt (· = '/') path.toList).map String.ofList

/-- The route of a path; the permit type is taken as it stands there. -/
def ofPath? (path : String) : Option Route :=
  match pathParts path with
  | ["", "api", "v1", "policy"] => some .policy
  | ["", "api", "v1", "policy", "permit-types", id, "vehicles"] => some (.vehicles id)
  | ["", "api", "v1", "policy", "validate"] => some .validate
  | ["", "health"] => some .health
  | ["", "ready"] => some .ready
  | ["", "metrics"] => some .metrics
  | _ => none

def allow : Route → String
  | .validate => "POST"
  | _ => "GET,HEAD"

def allows (r : Route) (method : String) : Bool :=
  match r with
  | .validate => method == "POST"
  | _ => method == "GET" || method == "HEAD"

end Route

def status (text : String) : Value := .object [("status", .string text)]

def summary (p : Policy) : Value :=
  .object [("version", .string p.definition.version),
    ("permitTypes", Catalog.encodeNames p.permitTypes)]

def vehicles (p : Policy) (segment : String) : Response :=
  match decodeSegment? segment with
  | none => .text 400 "Invalid URL: Invalid UTF-8 in `id`"
  | some id =>
    match p.permittableVehicles? id with
    | some v => .json 200 v.encode
    | none => .error 404 s!"permit type '{id}' is not defined"

/-- The document that a request carries.  What follows the document is not read. -/
def readBody (r : Request) : Except Response Value :=
  if !((r.contentType.bind MediaType.read?).any (·.isJson)) then
    .error (.text 415 "Expected request with `Content-Type: application/json`")
  else
    match Json.readPrefix r.body with
    | .ok (v, _) => .ok v
    | .error e =>
      .error (.text 400 ("Failed to parse the request body as JSON: " ++ e.messageAtPath))

def validate (p : Policy) (r : Request) : Response :=
  match readBody r with
  | .error response => response
  | .ok document => .json 200 (p.validateDocument document).encode

namespace Service

def serve (s : Service) (r : Request) : Route → Response
  | .policy => .json 200 (summary s.policy)
  | .vehicles segment => vehicles s.policy segment
  | .validate => validate s.policy r
  | .health => .json 200 (status "ok")
  | .ready =>
    if s.ready then .json 200 (status "ready") else .json 503 (status "initializing")
  | .metrics =>
    { status := 200, contentType := some "text/plain; version=0.0.4", body := s.metrics }

def respond (s : Service) (r : Request) : Response :=
  let response := match Route.ofPath? r.path with
    | none => .notFound
    | some route =>
      if route.allows r.method then s.serve r route else .methodNotAllowed route.allow
  if r.method = "HEAD" then response.withoutBody else response

end Service
end PermitPolicy.Http
