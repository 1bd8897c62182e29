import MetricsAgent.Agent.Basic
import MetricsAgent.Exposition.Render
import MetricsAgent.Json.Render
import MetricsAgent.Server.Http

/-!
# The scrape server

A scrape makes a call to the agent and answers with its batch; all other requests are answered at
once.  All calls run under the one token that fires at shutdown.

* `Server` is the agent, the token of the shutdown, the scrapes under way with the numbers of their
  calls, and the requests that were answered.
* `Server.receive` takes a request in.  What is asked for decides: an endpoint that needs no cycle
  has its answer in `Server.statusResponse`, a scrape begins a call, and a path or a method that is
  not served is refused.
* `Server.finishScrape` answers a scrape whose call has ended, with the text of its batch or with an
  error that says why there is none (`Server.ofCollection`).
* `Server.Reachable` holds the states that some order of requests, turns and passing time leads to.

Several scrapes may be under way at once.  Each has a call of its own, and the gate of the scheduler
lets one cycle through at a time.  A request that only wants the headers of an answer makes its call
like any other, and the answer loses its body at the end (`Request.trim`).
-/

set_option autoImplicit false

namespace MetricsAgent

/-- A scrape server: its agent, the token of the shutdown, the scrapes under way with the numbers of
their calls, and the requests that were answered. -/
structure Server where
  agent : Agent
  root : Nat
  scrapes : List (Nat × Server.Request)
  answered : List (Server.Request × Server.Response)

namespace Server

namespace Response

/-- A JSON response. -/
def json (status : Nat) (j : Json) : Response := ⟨status, some "application/json", none, j.render⟩

/-- A cause and its wording. -/
def failure (status : Nat) (cause message : String) : Response :=
  json status (.object [("error", .string cause), ("message", .string message)])

/-- The answer to a scrape. -/
def ofCollection : Except CycleError CycleReport → Response
  | .error e => failure 500 e.code e.message
  | .ok r =>
    if r.isCancelled then failure 503 "shutting_down" "collection cancelled"
    else ⟨200, some Exposition.contentType, none, Exposition.render r.measurements⟩

/-- The server is alive. -/
def health (collectorCount : Nat) : Response :=
  json 200 (.object [("status", .string "ok"), ("collectors", .number (toString collectorCount))])

/-- The collectors of a registry. -/
def collectors (r : Registry) : Response :=
  json 200 (.array (r.list.map fun e ↦
    .object [("module", .string e.1), ("name", .string e.2)]))

end Response

/-- A server at rest. Its token is the given one. -/
def start (s : AgentSetup) (metrics : SelfMetrics) (root : Nat) : Server :=
  ⟨.start s metrics, root, [], []⟩

/-- Answer a request. -/
def answer (w : Server) (q : Request) (r : Response) : Server :=
  { w with answered := w.answered ++ [(q, r)] }

/-- The answer to a request for an endpoint that needs no cycle. -/
def statusResponse (s : AgentSetup) (w : Server) : Endpoint → Option Response
  | .health => some (.health s.scheduler.registry.collectorCount)
  | .collectors => some (.collectors s.scheduler.registry)
  | .selfMetrics => some (.json 200 w.agent.scheduler.metrics.snapshot.toJson)
  | .metrics => none

/-- A request without its body where it asks for none. -/
def Request.trim (q : Request) (r : Response) : Response :=
  if q.method = "HEAD" then r.withoutBody else r

/-- Take a request in. -/
def receive (s : AgentSetup) (w : Server) (q : Request) : Server :=
  match q.route with
  | .options known => w.answer q (.bare 200 (if known then some Response.allowed else none))
  | .unknownPath => w.answer q (.bare 404 none)
  | .wrongMethod => w.answer q (.bare 405 (some Response.allowed))
  | .endpoint e =>
    match w.statusResponse s e with
    | some r => w.answer q (q.trim r)
    | none =>
      { w with
        agent := w.agent.call w.root false
        scrapes := w.scrapes ++ [(w.agent.scheduler.next, q)] }

/-- The tasks of a server. -/
inductive TaskId where
  | agent (t : Agent.TaskId)
  | scrape (call : Nat)
  deriving DecidableEq, Repr

/-- Answer a scrape whose call has ended. -/
def finishScrape (w : Server) (call : Nat) (q : Request) : Option Server :=
  match w.agent.calls.find? (·.cycle = call) with
  | some ⟨_, _, .collected r⟩ =>
    some ({ w with
      agent := w.agent.drop call
      scrapes := w.scrapes.filter (·.1 ≠ call) }.answer q (q.trim (.ofCollection r)))
  | _ => none

/-- The turn of a task. -/
def step (s : AgentSetup) (t : TaskId) (w : Server) : Option Server :=
  match t with
  | .agent t => (w.agent.step s t).map fun a ↦ { w with agent := a }
  | .scrape call => (w.scrapes.find? (·.1 = call)).bind fun e ↦ w.finishScrape call e.2

/-- The shutdown token fires. -/
def shutDown (w : Server) : Server := { w with agent := w.agent.cancel w.root }

/-- The states that some order of requests, turns and passing time leads to. -/
inductive Reachable (s : AgentSetup) (metrics : SelfMetrics) (root : Nat) : Server → Prop where
  | start : Reachable s metrics root (start s metrics root)
  | receive {w : Server} (h : Reachable s metrics root w) (q : Request) :
    Reachable s metrics root (w.receive s q)
  | shutDown {w : Server} (h : Reachable s metrics root w) : Reachable s metrics root w.shutDown
  | elapse {w : Server} (h : Reachable s metrics root w) (ms : Nat) :
    Reachable s metrics root { w with agent := w.agent.elapse ms }
  | step {w w' : Server} (h : Reachable s metrics root w) (t : TaskId) (e : w.step s t = some w') :
    Reachable s metrics root w'

end Server

end MetricsAgent
