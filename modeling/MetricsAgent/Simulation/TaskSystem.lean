/-!
# Running tasks under a virtual clock

A `TaskSystem` says which tasks a state has, what the next stretch of a task does, and until when a
task sleeps.  Any order of stretches is a run of the system; this module picks one.  A task goes on
until it has to wait; then come the tasks that were ready before, in the order in which they became
ready; when all wait, the clock jumps to the next time at which one of them wakes.

* `TaskSystem.settle` lets all tasks go on until a condition holds or all of them wait.
* `TaskSystem.runUntil` does so again and again, with the clock jumping in between, at the latest
  until a given time.
* `TaskSystem.await` waits for a condition, and gives up after `TaskSystem.patience`.

All functions take a budget of stretches, which only a task that never waits can use up.  The models
that are driven here are proved right for all orders; the driver is what makes them a program, and
one that always does the same.
-/

set_option autoImplicit false

namespace MetricsAgent

/-- Tasks `τ` that share a state `σ` with a clock in whole milliseconds. -/
structure TaskSystem (σ τ : Type) where
  /-- The tasks, in the order in which one event wakes them. -/
  tasks : σ → List τ
  /-- The next stretch of a task; `none` while it has to wait. -/
  step : τ → σ → Option σ
  /-- The time until which a task sleeps. -/
  wakeTime : τ → σ → Option Nat
  now : σ → Nat
  setNow : Nat → σ → σ

namespace TaskSystem

variable {σ τ : Type} [DecidableEq τ] (sys : TaskSystem σ τ)

/-- The number of stretches allowed. -/
def budget : Nat := 1000000000

/-- Let a task go on until it has to wait. -/
def runTask : Nat → τ → σ → σ
  | 0, _, s => s
  | n + 1, t, s =>
    match sys.step t s with
    | none => s
    | some s => runTask n t s

/-- The tasks that can go on and do not stand in line yet. -/
def newlyReady (line : List τ) (s : σ) : List τ :=
  (sys.tasks s).filter fun t ↦ t ∉ line && (sys.step t s).isSome

/-- Let the tasks in line go on, and those that become ready meanwhile, until `stop` holds or all
wait. -/
def settleLine (stop : σ → Bool) : Nat → List τ → σ → σ
  | 0, _, s => s
  | n + 1, line, s =>
    if stop s then s
    else
      match line with
      | [] => s
      | t :: rest =>
        let s := sys.runTask budget t s
        settleLine stop n (rest ++ sys.newlyReady rest s) s

/-- Let all tasks go on until `stop` holds or all wait. -/
def settle (stop : σ → Bool) (s : σ) : σ := sys.settleLine stop budget (sys.newlyReady [] s) s

/-- The next time at which a sleeping task wakes. -/
def nextWake (s : σ) : Option Nat :=
  ((sys.tasks s).filterMap (sys.wakeTime · s)).filter (sys.now s < ·) |>.min?

/-- Run until `stop` holds, at the latest until the clock shows `deadline`. -/
def runUntil (stop : σ → Bool) (deadline : Nat) : Nat → σ → σ
  | 0, s => s
  | n + 1, s =>
    let s := sys.settle stop s
    if stop s then s
    else
      match sys.nextWake s with
      | none => sys.setNow (max deadline (sys.now s)) s
      | some t =>
        if t ≤ deadline then runUntil stop deadline n (sys.setNow t s)
        else sys.setNow (max deadline (sys.now s)) s

/-- Run for a number of milliseconds. -/
def runFor (ms : Nat) (s : σ) : σ := sys.runUntil (fun _ ↦ false) (sys.now s + ms) budget s

/-- The time after which a wait counts as endless. -/
def patience : Nat := 86400000

/-- Run until `stop` holds, or until patience is at its end. -/
def await (stop : σ → Bool) (s : σ) : σ := sys.runUntil stop (sys.now s + patience) budget s

/-- Run for the millisecond after which all other tasks have gone as far as they can. -/
def rest (s : σ) : σ := sys.runFor 1 s

end TaskSystem

end MetricsAgent
