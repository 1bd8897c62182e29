import MetricsAgent.Collector.KernelFiles
import MetricsAgent.CommandLine
import MetricsAgent.Config.Validate
import MetricsAgent.Server.Wire
import MetricsAgent.Simulation.Agent
import MetricsAgent.Simulation.Server

/-!
# The program

The thin outer layer: files, the environment, standard input and output.  With `--once` the program
runs one cycle and writes its measurements.  Without it the program answers the request on its
standard input, so that it can stand behind a listener that starts a program for every connection.

Everything that decides something is elsewhere and is a function of its arguments.  This module
fetches the arguments — the bytes of the file, the variables that the file refers to, the readings
of the kernel, a seed — hands them on, and turns the answer into text and an exit code.  The random
numbers of the sampling policy are computed from the seed (`Main.random`), so that a run is
determined by it.
-/

set_option autoImplicit false

namespace MetricsAgent.Main

/-- The text of a file, empty where there is none. -/
def readText (path : String) : IO String := try IO.FS.readFile path catch _ => return ""

/-- The bytes of a file, if there is one. -/
def readBytes? (path : String) : IO (Option ByteArray) :=
  try return some (← IO.FS.readBinFile path) catch _ => return none

/-- The variables of the environment with the given names. -/
def environment (names : List String) : IO Environment := do
  let values ← names.mapM fun name ↦ do return (name, ← IO.getEnv name)
  return fun name ↦ (values.lookup name).join

/-- Random numbers from a seed, from zero up to one. -/
def random (seed : Nat) (n : Nat) : Float :=
  ((mixHash seed.toUInt64 (mixHash n.toUInt64 0)) >>> 11).toFloat / 9007199254740992.0

/-- The agent of a configuration on this host. -/
def agentSetup (config : Config) : IO (Except ConfigError AgentSetup) := do
  let memory := Host.KernelFiles.memory? (← readText "/proc/meminfo")
  let processors := Host.KernelFiles.processorCount (← readText "/proc/cpuinfo")
  let probe := if memory.isSome then Host.Probe.available else .unsupported
  let readings : Host.Readings := ⟨⟨0.0, []⟩, memory.getD ⟨0, 0, 0, 0, 0⟩, []⟩
  let registry := Registry.empty.registerOrKeep
    (Host.toModule probe config.collectors.toHost fun _ ↦ (0, readings))
  let seed ← IO.rand 0 (UInt64.size - 1)
  match config.sampling.toPolicy (random seed) with
  | .error f => return .error (.invalid f)
  | .ok policy =>
    return .ok
      ⟨⟨registry, config.scheduler.toScheduler (max 1 processors)⟩, config.toAgent, policy, []⟩

/-- Run one cycle, and write its measurements. -/
def collectOnce (s : AgentSetup) : IO UInt32 := do
  match (Simulation.AgentTrial.start s .new).runCall s false .never none with
  | (some (.collected (.ok r)), _) => do
    IO.print (Exposition.render r.measurements)
    return 0
  | (some (.collected (.error e)), _) => do
    IO.eprintln ("Error: " ++ e.message)
    return 1
  | _ => return 1

/-- Answer the request on the standard input. -/
def serve (s : AgentSetup) : IO UInt32 := do
  let response := match Server.Request.ofLine? (← (← IO.getStdin).getLine) with
    | some q => (Simulation.request s (.start s .new 0) q).1.getD (.bare 500 none)
    | none => .bare 400 none
  IO.print response.toWire
  return 0

/-- Run with a command line. -/
def run (c : CommandLine) : IO UInt32 := do
  let file ← readBytes? c.config
  let env ← environment (Config.variablesOf file)
  match c.load env file with
  | .error e => do
    IO.eprintln ("Error: " ++ e.message)
    return 1
  | .ok config =>
    match ← agentSetup config with
    | .error e => do
      IO.eprintln ("Error: " ++ e.message)
      return 1
    | .ok s => if c.once then collectOnce s else serve s

end MetricsAgent.Main

open MetricsAgent

/-- The program. -/
def main (arguments : List String) : IO UInt32 := do
  let env ← Main.environment (CommandLine.ValueOption.all.map (·.variable))
  match CommandLine.parse env arguments with
  | .error e => do
    IO.eprintln ("error: " ++ e.message ++ "\n\n" ++ CommandLine.usage)
    return 2
  | .ok .help => do
    IO.println CommandLine.usage
    return 0
  | .ok .version => do
    IO.println "0.1.0"
    return 0
  | .ok (.run c) => Main.run c
