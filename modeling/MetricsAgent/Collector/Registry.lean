import MetricsAgent.Collector.Error

/-!
# Collectors and their registry

A collector is known by its name and by what each of its calls does.  A `Behaviour` is what one call
does: it waits, possibly for ever, and then gives a result; on the way it may look at its own token,
and it may fire the token of its cycle.  Nothing more is assumed of a collector, and everything that
is proved about the scheduler is proved for all of them.

Collectors are grouped into modules, and a registry takes modules in order: no two with one name,
and within a module no two collectors with one name.  `Registry.enroll` looks for what is wrong
before it changes anything.  There are two ways to register.  `Registry.register` is a link of a
chain that ends at the first refusal, and `Registry.registerOrKeep` goes on with the registry as it
was.

At the end of the program the collectors are shut down one after the other, within a limit that is
common to all of them (`Registry.shutdown`).  The first one that would not be ready by then is given
up, and those behind it are not begun.
-/

set_option autoImplicit false

namespace MetricsAgent

/-- What one call of a collector does: it waits, possibly for ever, and then gives a result. -/
structure Behaviour where
  /-- The wait in milliseconds; `none` is for ever. -/
  waitMs : Option Nat
  /-- The cancellation of the call's own token ends the wait. -/
  honorsCancel : Bool
  /-- The call fires the token of its cycle after the wait. -/
  cancelsOuter : Bool
  result : CollectResult

/-- An empty batch at once. -/
def Behaviour.default : Behaviour := ⟨some 0, false, false, .batch []⟩

/-- A collector: its name, what its calls do, counted from zero, and how long its shutdown takes. -/
structure Collector where
  name : String
  behaviour : Nat → Behaviour
  shutdownMs : Nat

/-- A script of behaviours, of which the last repeats. -/
def Collector.script (l : List Behaviour) (n : Nat) : Behaviour :=
  (l[n]?).getD (l.getLast?.getD .default)

/-- What is done before and after the collectors of a module, and how long it takes. -/
structure Hooks where
  /-- Whether the hooks leave a trace. -/
  traced : Bool
  beforeMs : Nat
  afterMs : Nat
  deriving DecidableEq, Repr

/-- A named group of collectors. -/
structure CollectorModule where
  name : String
  collectors : List Collector
  hooks : Option Hooks

/-- The modules in the order of registration. -/
structure Registry where
  modules : List CollectorModule

/-- Why a module is refused. -/
inductive RegistrationError where
  | moduleExists (module : String)
  | duplicateCollector (collector module : String)
  deriving DecidableEq, Repr

/-- A refused registration is an invalid operation. -/
def RegistrationError.toCollectorError : RegistrationError → CollectorError
  | moduleExists m => .invalidOperation ("module '" ++ m ++ "' already registered")
  | duplicateCollector c m =>
    .invalidOperation ("duplicate collector '" ++ c ++ "' in module '" ++ m ++ "'")

namespace Registry

/-- No modules. -/
def empty : Registry := ⟨[]⟩

/-- The first name that came before in the list. -/
def firstDuplicate? (seen : List String) : List String → Option String
  | [] => none
  | n :: ns => if n ∈ seen then some n else firstDuplicate? (n :: seen) ns

/-- Register a module in place. What is wrong with it is found before anything changes. -/
def enroll (m : CollectorModule) : ExceptT RegistrationError (StateM Registry) Unit := do
  if (← get).modules.any (·.name = m.name) then throw (.moduleExists m.name)
  if let some c := firstDuplicate? [] (m.collectors.map (·.name)) then
    throw (.duplicateCollector c m.name)
  modify fun r ↦ ⟨r.modules ++ [m]⟩

/-- Register a module in a chain of registrations, which ends at the first refusal. -/
def register (r : Registry) (m : CollectorModule) : Except RegistrationError Registry :=
  match (enroll m).run.run r with
  | (.ok (), r) => .ok r
  | (.error e, _) => .error e

/-- The registry after a registration, whatever was answered. -/
def registerOrKeep (r : Registry) (m : CollectorModule) : Registry := ((enroll m).run.run r).2

/-- The number of collectors. -/
def collectorCount (r : Registry) : Nat := r.modules.foldl (fun n m ↦ n + m.collectors.length) 0

theorem collectorCount_eq_length (r : Registry) :
    r.collectorCount = (r.modules.flatMap (·.collectors)).length := by
  have count (n : Nat) (ms : List CollectorModule) :
      ms.foldl (fun n m ↦ n + m.collectors.length) n = n + (ms.flatMap (·.collectors)).length := by
    induction ms generalizing n with
    | nil => rfl
    | cons m ms ih => rw [List.foldl_cons, ih, List.flatMap_cons, List.length_append, Nat.add_assoc]
  exact (count 0 r.modules).trans (Nat.zero_add _)

/-- Module and name of every collector, in the order of registration. -/
def list (r : Registry) : List (String × String) :=
  r.modules.flatMap fun m ↦ m.collectors.map fun c ↦ (m.name, c.name)

end Registry

/-- What happens at a shutdown. -/
inductive ShutdownEvent where
  | closing (collector : String)
  | closed (collector : String)
  deriving DecidableEq, Repr

namespace Registry

/-- The time that a shutdown may take where none is given, in milliseconds. -/
def defaultShutdownMs : Nat := 5000

/-- Shut collectors down one after the other, starting at `now` and at the latest until `deadline`.
Answers whether all were shut down, what happened, and the time at the end. -/
def shutdownAll (deadline : Nat) : Nat → List Collector → Bool × List (Nat × ShutdownEvent) × Nat
  | now, [] => (true, [], now)
  | now, c :: cs =>
    let closing := (now, ShutdownEvent.closing c.name)
    if 0 < c.shutdownMs && deadline < now + c.shutdownMs then (false, [closing], max now deadline)
    else
      let now := now + c.shutdownMs
      let (done, events, finish) := shutdownAll deadline now cs
      (done, closing :: (now, .closed c.name) :: events, finish)

/-- Shut all collectors down, giving up after `limitMs` milliseconds. -/
def shutdown (r : Registry) (now limitMs : Nat) : Bool × List (Nat × ShutdownEvent) × Nat :=
  shutdownAll (now + limitMs) now (r.modules.flatMap (·.collectors))

end Registry

end MetricsAgent
