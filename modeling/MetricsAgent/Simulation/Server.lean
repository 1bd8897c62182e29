import MetricsAgent.Server.Basic
import MetricsAgent.Simulation.TaskSystem

/-!
# Scrape servers under the virtual clock

`serverSystem` lists the tasks of a server in the order in which they began: those of its agent, and
the scrapes that wait for their answer.  `Simulation.request` sends a request to a server, waits for
the answer, and gives the server back with it, so that requests can be sent one after the other.
-/

set_option autoImplicit false

namespace MetricsAgent.Simulation

/-- The tasks of a server, in the order in which they began. -/
def serverSystem (s : AgentSetup) : TaskSystem Server Server.TaskId where
  tasks w := (w.agent.scheduler.cycles.map fun c ↦ .agent (.scheduler (.cycle c.id)))
    ++ (w.agent.scheduler.invocations.map fun i ↦ .agent (.scheduler (.invocation i.id)))
    ++ (w.agent.calls.map fun c ↦ .agent (.call c.cycle))
    ++ w.scrapes.map fun e ↦ .scrape e.1
  step k w := w.step s k
  wakeTime
    | .agent k, w => w.agent.wakeTime k
    | .scrape _, _ => none
  now w := w.agent.now
  setNow n w := { w with agent := w.agent.elapse (n - w.agent.now) }

/-- Send a request, and wait for the answer. -/
def request (s : AgentSetup) (w : Server) (q : Server.Request) : Option Server.Response × Server :=
  let before := w.answered.length
  let w := (serverSystem s).await (fun w ↦ before < w.answered.length) (w.receive s q)
  (w.answered[before]?.map (·.2), w)

end MetricsAgent.Simulation
