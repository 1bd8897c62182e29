import MetricsAgent.Scheduler.Cycle

/-!
# Logs of cycles

What traced hooks and collectors do, line by line, with the time of each line.  A line is made of an
event of the scheduler, if the event is one that leaves a trace, or of a step of a shutdown.

Lines between two lines of hooks may come from collectors that run side by side.  The order in which
such collectors begin and end within one millisecond is not determined, so in the log of a parallel
scheduler these stretches are put in order, by time and then by text (`sortStretches`).  The lines
of the hooks themselves stay where they are.
-/

set_option autoImplicit false

namespace MetricsAgent.Simulation

/-- A line of a log. -/
structure LogLine where
  /-- Whether a hook wrote it. -/
  hook : Bool
  time : Nat
  text : String
  deriving DecidableEq, Repr

namespace LogLine

/-- Whether the hooks of a module are traced. -/
def isTraced (r : Registry) (name : String) : Bool :=
  r.modules.any fun m ↦ m.name = name && m.hooks.any (·.traced)

/-- The line about an event, if there is one. -/
def ofEvent? (r : Registry) : Nat × Scheduler.Event → Option LogLine
  | (t, .before _ m) => if isTraced r m then some ⟨true, t, "before " ++ m⟩ else none
  | (t, .after _ m) => if isTraced r m then some ⟨true, t, "after " ++ m⟩ else none
  | (t, .started _ k fired) =>
    some ⟨false, t, "start " ++ k.collector.name ++ if fired then " cancelled" else ""⟩
  | (t, .gaveUp _ k) => some ⟨false, t, "abort " ++ k.collector.name⟩
  | (t, .ended _ k) => some ⟨false, t, "end " ++ k.collector.name⟩
  | _ => none

/-- The line about a step of a shutdown. -/
def ofShutdown : Nat × ShutdownEvent → LogLine
  | (t, .closing name) => ⟨false, t, "shutdown " ++ name⟩
  | (t, .closed name) => ⟨false, t, "closed " ++ name⟩

/-- The order of lines: by time, then by text. -/
def le (a b : LogLine) : Bool := a.time < b.time || (a.time = b.time && a.text ≤ b.text)

/-- Put each stretch between lines of hooks in order. The lines of the current stretch come
second. -/
def sortStretches : List LogLine → List LogLine → List LogLine
  | [], stretch => stretch.mergeSort le
  | l :: ls, stretch =>
    if l.hook then stretch.mergeSort le ++ l :: sortStretches ls
      [] else sortStretches ls (l :: stretch)

end LogLine

/-- The log of what happened in cycles and at shutdown. -/
def log (s : SchedulerSetup) (es : List (Nat × Scheduler.Event))
    (closing : List (Nat × ShutdownEvent)) : List LogLine :=
  let ls := es.filterMap (LogLine.ofEvent? s.registry) ++ closing.map LogLine.ofShutdown
  if s.config.parallel then LogLine.sortStretches ls [] else ls

end MetricsAgent.Simulation
