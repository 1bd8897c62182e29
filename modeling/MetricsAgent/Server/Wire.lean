import MetricsAgent.Server.Http

/-!
# Requests and responses on the wire

The outer layer of the scrape server: a request line in, a response with its headers out.

`Request.ofLine?` reads the line of a request, which is a method, a target and the version of the
protocol; anything else is no request, and the rest of the head plays no role for this server.
`Response.toWire` writes a response: the line with the status and its words (`statusText`), the
headers, an empty line, and the body.  Each connection serves one request, so a response says that
the connection is closed behind it.
-/

set_option autoImplicit false

namespace MetricsAgent.Server

/-- The request of a request line: a method, a target and the version of the protocol. -/
def Request.ofLine? (line : String) : Option Request :=
  match (line.trimAscii.toString.splitOn " ") with
  | [method, target, version] =>
    if version.startsWith "HTTP/1." then some ⟨method, targetPath target⟩ else none
  | _ => none

namespace Response

/-- The words for a status. -/
def statusText : Nat → String
  | 200 => "OK"
  | 400 => "Bad Request"
  | 404 => "Not Found"
  | 405 => "Method Not Allowed"
  | 500 => "Internal Server Error"
  | 503 => "Service Unavailable"
  | _ => "Unknown"

/-- The headers of a response. -/
def headers (r : Response) : List (String × String) :=
  [("content-type", r.contentType), ("allow", r.allow),
    ("access-control-allow-origin", some allowedOrigin),
    ("content-length", some (toString r.body.utf8ByteSize)),
    ("connection", some "close")].filterMap fun (k, v) ↦ v.map fun v ↦ (k, v)

/-- A response as it is sent. -/
def toWire (r : Response) : String :=
  "HTTP/1.1 " ++ toString r.status ++ " " ++ statusText r.status ++ "\r\n"
    ++ String.join (r.headers.map fun (k, v) ↦ k ++ ": " ++ v ++ "\r\n") ++ "\r\n" ++ r.body

end Response

end MetricsAgent.Server
