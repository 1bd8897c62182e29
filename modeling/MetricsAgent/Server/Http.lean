/-!
# Requests and responses of the scrape server

A `Request` is what is asked for: a method, and the path without its query.  `Request.route` says
where it goes.  There are four endpoints (`Endpoint`), which are known by their paths, and all of
them take the same methods; a known path with another method is told apart from an unknown path.

A `Response` is a status, a type of content and a body, with the methods that would have been
allowed where the one that was used is not.  `Response.withoutBody` leaves the body out.  A page
from anywhere may read a response, and a request that asks about this gets an answer without a body
at every path.

`targetPath` is the path of a request target.  A target may be written in full, with scheme and host
in front and a query behind, and only what stands between them counts.
-/

set_option autoImplicit false

namespace MetricsAgent.Server

/-- What is asked for: a method, and the path without its query. -/
structure Request where
  method : String
  path : String
  deriving DecidableEq, Repr

/-- The answer to a request. The body may be read from everywhere, as its headers say. -/
structure Response where
  status : Nat
  contentType : Option String
  /-- The methods that the path takes. -/
  allow : Option String
  body : String
  deriving DecidableEq, Repr

/-- The path of a request target: what stands before the query and after scheme and authority. -/
def targetPath (target : String) : String :=
  let cs := target.toList.takeWhile fun c ↦ c ≠ '?' && c ≠ '#'
  let rec afterAuthority : List Char → Option (List Char)
    | ':' :: '/' :: '/' :: rest => some (rest.dropWhile (· ≠ '/'))
    | '/' :: _ | [] => none
    | _ :: rest => afterAuthority rest
  match cs with
  | '/' :: _ | ['*'] => String.ofList cs
  | _ =>
    match afterAuthority cs with
    | some [] => "/"
    | some rest => String.ofList rest
    | none => ""

/-- What the server answers about. -/
inductive Endpoint where
  | health
  | metrics
  | selfMetrics
  | collectors
  deriving DecidableEq, Repr

namespace Endpoint

/-- The endpoint of a path. -/
def ofPath? : String → Option Endpoint
  | "/healthz" => some health
  | "/metrics" => some metrics
  | "/api/self-metrics" => some selfMetrics
  | "/api/collectors" => some collectors
  | _ => none

end Endpoint

/-- Where a request goes. -/
inductive Route where
  /-- A question about other origins, which every path answers with an empty body. -/
  | options (known : Bool)
  | unknownPath
  | wrongMethod
  | endpoint (e : Endpoint)
  deriving DecidableEq, Repr

/-- The route of a request. -/
def Request.route (r : Request) : Route :=
  let e := Endpoint.ofPath? r.path
  if r.method = "OPTIONS" then .options e.isSome
  else
    match e with
    | none => .unknownPath
    | some e =>
      if r.method = "GET" || r.method = "HEAD" then .endpoint e else .wrongMethod

namespace Response

/-- The methods that every endpoint takes. -/
def allowed : String := "GET,HEAD"

/-- The origins that may read a response: all. -/
def allowedOrigin : String := "*"

/-- A response without a body. -/
def bare (status : Nat) (allow : Option String) : Response := ⟨status, none, allow, ""⟩

/-- The response with its headers alone. -/
def withoutBody (r : Response) : Response := { r with body := "" }

end Response

end MetricsAgent.Server
