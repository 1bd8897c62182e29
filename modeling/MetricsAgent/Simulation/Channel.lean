import MetricsAgent.Channel.Traffic
import MetricsAgent.Simulation.TaskSystem

/-!
# Channel traffic under the virtual clock

`ChannelTrial` is the traffic of a channel with a clock, and `channelSystem` its tasks: producers
and consumers, in the order in which they arrived.  They wait for each other only and never for a
time, so the clock does not matter to them.

`ChannelTrial.act` changes the traffic from outside — a task arrives, a token fires — and then lets
all tasks go as far as they can, and `ChannelTrial.ended` lists those that have ended with their
outcomes.
-/

set_option autoImplicit false

namespace MetricsAgent.Simulation

/-- Traffic with a clock. -/
structure ChannelTrial (α : Type) where
  now : Nat
  traffic : Traffic α

/-- Producers and consumers, in the order in which they arrived. They wait for each other only. -/
def channelSystem (α : Type) : TaskSystem (ChannelTrial α) Nat where
  tasks t := t.traffic.tasks.map (·.id)
  step id t := (t.traffic.step id).map fun w ↦ { t with traffic := w }
  wakeTime _ _ := none
  now := (·.now)
  setNow n t := { t with now := n }

namespace ChannelTrial

variable {α : Type}

/-- Change the traffic, and let all tasks go as far as they can. -/
def act (t : ChannelTrial α) (f : Traffic α → Traffic α) : ChannelTrial α :=
  (channelSystem α).rest { t with traffic := f t.traffic }

/-- The tasks that have ended, with their outcomes. -/
def ended (t : ChannelTrial α) : List (Nat × Traffic.Outcome α) :=
  t.traffic.tasks.filterMap fun k ↦
    match k.phase with
    | .ended o => some (k.id, o)
    | _ => none

end ChannelTrial

end MetricsAgent.Simulation
