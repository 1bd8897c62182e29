import MetricsAgent.Duration.Text
import MetricsAgent.Push.Client
import MetricsAgent.Text.Utf8
import MetricsAgent.Url.Basic

/-!
# Pushing over HTTP

`HttpPush.client` is the remote end of a sender that posts to an endpoint.  It keeps the envelopes
that are submitted, and a flush posts all of them in one request, as a JSON object whose member
`points` holds them in the order in which they came.  No submission fails, and whatever comes of the
request, the envelopes are gone afterwards: the sender submits a failed batch again from its first
envelope, so that keeping it here would post it twice.

What the network does is not part of the client.  A `Reception` is all that the client hears of a
request, and `HttpPush.remote` gives one for every request, so that a statement about all clients is
one about all scripts of answers and failures.  There are three kinds of them.

* **The request breaks off** before there is an answer.  The transport tells why in its own words
  and answers three questions about it (`TransportError`): whether it ran out of time, whether it
  was the connection that failed, and whether a status was seen.  `TransportError.classify` puts
  them in this order, and an error to which none of them applies is one that no other attempt can
  mend.
* **There is no answer** within the timeout of the client.
* **There is an answer**, a status and a body behind it.  Of a good status the body is never read.
  Of any other one the error keeps the beginning of the body, and nothing where the body cannot be
  read: a second failure does not hide the first one.  The timeout of the transport, which is the
  same, runs on while the body is read.

A header that cannot be written makes the request fail before anything is sent.
-/

set_option autoImplicit false

namespace MetricsAgent

/-- A request that posts a body. -/
structure PostRequest where
  url : Url
  headers : List (String × String)
  body : String
  deriving DecidableEq, Repr

/-- Why a request has broken off, in the words of the transport and by three questions that it
answers. -/
structure TransportError where
  detail : String
  isTimeout : Bool
  isConnect : Bool
  status? : Option Nat
  deriving DecidableEq, Repr

/-- What the error is to the sender. The first question that applies decides. -/
def TransportError.classify (e : TransportError) : ExportError :=
  if e.isTimeout then .timeout e.detail
  else if e.isConnect then .connect e.detail
  else match e.status? with
    | some status => .status status e.detail
    | none => .request e.detail

/-- The body of an answer: how long it takes to read behind the status, and its bytes, unless it
cannot be read. -/
structure AnswerBody where
  readMs : Nat
  bytes? : Option (List UInt8)
  deriving DecidableEq, Repr

/-- What the client hears of a request. -/
inductive Reception where
  /-- It breaks off before there is an answer. -/
  | broken (afterMs : Nat) (error : TransportError)
  /-- There is never an answer. -/
  | silent
  | answered (afterMs status : Nat) (body : AnswerBody)
  deriving DecidableEq, Repr

namespace HeaderText

/-- A character of a header's name. -/
def isNameChar (c : Char) : Bool := isAsciiAlnum c || "!#$%&'*+-.^_|~\x60".toList.contains c

/-- The longest name. -/
def maxNameBytes : Nat := 65535

/-- Whether a text is the name of a header. -/
def isName (s : String) : Bool :=
  !s.isEmpty && s.toList.all isNameChar && s.utf8ByteSize ≤ maxNameBytes

/-- Whether a text is the value of a header: there are no control characters in it but tabs. -/
def isValue (s : String) : Bool := s.toList.all fun c ↦ c = '\t' || (32 ≤ c.toNat && c.toNat ≠ 127)

end HeaderText

/-- A client that posts to an endpoint, and a remote end that takes the requests, numbered from
zero. -/
structure HttpPush where
  endpoint : Url
  headers : List (String × String)
  timeout : Duration
  /-- What the transport says of a request with a header that cannot be written. -/
  unwritable : String
  remote : Nat → PostRequest → Reception

namespace HttpPush

/-- The envelopes that wait for a flush, and the requests that were made, with what came of them. -/
structure State where
  pending : List Envelope
  posted : List (PostRequest × Reception)

/-- Nothing waits, and nothing was sent. -/
def State.start : State := ⟨[], []⟩

/-- The number of characters of an answer that an error keeps. -/
def maxErrorBody : Nat := 256

/-- The text that posts envelopes. -/
def body (es : List Envelope) : String :=
  (Json.object [("points", .array (es.map (·.toJson)))]).render

/-- The headers of a request; `none` when one of them cannot be sent. The given ones do not replace
the one about the content. -/
def requestHeaders? (h : HttpPush) : Option (List (String × String)) :=
  if h.headers.all fun (k, v) ↦ HeaderText.isName k && HeaderText.isValue v then
    some (("content-type", "application/json") :: h.headers.map fun (k, v) ↦ (asciiLower k, v))
  else none

/-- The statuses from 200 to 299 are good. -/
def isGood (status : Nat) : Bool := 200 ≤ status && status ≤ 299

/-- What comes of a request that is not answered in time. -/
def late (h : HttpPush) : RemoteCall := ⟨h.timeout.ceilMillis, .error (.timeout h.timeout.compact)⟩

/-- When the reading of a body ends that begins at a time, and what has been read: nothing where the
body breaks off, or is not there by the end of the timeout. -/
def readBody (h : HttpPush) (fromMs : Nat) (b : AnswerBody) : Nat × String :=
  if h.timeout < .ofMillis (fromMs + b.readMs) then (h.timeout.ceilMillis, "")
  else (fromMs + b.readMs, (b.bytes?.map Utf8.decode).getD "")

/-- What comes of a request that is answered in time. -/
def ofAnswer (h : HttpPush) (ms status : Nat) (b : AnswerBody) : RemoteCall :=
  if isGood status then ⟨ms, .ok ()⟩
  else
    let read := h.readBody ms b
    ⟨read.1, .error (.status status (String.ofList (read.2.toList.take maxErrorBody)))⟩

/-- What the client makes of a reception. What comes after the timeout comes too late. -/
def receive (h : HttpPush) : Reception → RemoteCall
  | .broken ms e => if h.timeout < .ofMillis ms then h.late else ⟨ms, .error e.classify⟩
  | .silent => h.late
  | .answered ms status body =>
    if h.timeout < .ofMillis ms then h.late else h.ofAnswer ms status body

/-- Keep an envelope. -/
def submit (s : State) (e : Envelope) : State × RemoteCall :=
  ({ s with pending := s.pending ++ [e] }, ⟨0, .ok ()⟩)

/-- Post what was kept, if anything was. -/
def flush (h : HttpPush) (s : State) : State × RemoteCall :=
  match s.pending, h.requestHeaders? with
  | [], _ => (s, ⟨0, .ok ()⟩)
  | _ :: _, none => ({ s with pending := [] }, ⟨0, .error (.request h.unwritable)⟩)
  | e :: es, some headers =>
    let request := ⟨h.endpoint, headers, body (e :: es)⟩
    let r := h.remote s.posted.length request
    (⟨[], s.posted ++ [(request, r)]⟩, h.receive r)

/-- The client of a pipeline. -/
def client (h : HttpPush) : RemoteClient State := ⟨submit, h.flush⟩

end HttpPush

end MetricsAgent
