import MetricsAgent.Collector.Host
import MetricsAgent.Text.Blank

/-!
# Readings from the files of a kernel

A file of the kernel has a line for each reading: a name, a colon, and a number, which for sizes
counts kibibytes.  `KernelFiles.memory?` reads the sizes of the memory from one such file and
`KernelFiles.processorCount` counts the processors in another.

A file that lacks one of the sizes gives no reading, and the collectors then behave as on a platform
that is not supported.  Memory in use is what is not available, not what is not free: pages that the
kernel can give back at any time count as available.
-/

set_option autoImplicit false

namespace MetricsAgent.Host.KernelFiles

/-- The name and the rest of a line. -/
def splitLine (cs : List Char) : List Char × List Char :=
  (trimBlank (cs.takeWhile (· ≠ ':')), trimBlank ((cs.dropWhile (· ≠ ':')).drop 1))

/-- The lines of a text. -/
def lines (text : String) : List (List Char × List Char) :=
  (text.splitOn "\n").map fun l ↦ splitLine l.toList

/-- The size with a name, in bytes. -/
def size? (text : String) (name : String) : Option UInt64 := do
  let (_, value) ← (lines text).find? (·.1 = name.toList)
  return ((← decimalNat? (value.takeWhile Char.isDigit)) * 1024).toUInt64

/-- The sizes of the memory. What is not available is used. -/
def memory? (text : String) : Option MemoryReading := do
  let total ← size? text "MemTotal"
  let available ← size? text "MemAvailable"
  let swapTotal ← size? text "SwapTotal"
  let swapFree ← size? text "SwapFree"
  return ⟨total, total - available, available, swapTotal, swapTotal - swapFree⟩

/-- The number of processors. -/
def processorCount (text : String) : Nat := (lines text).countP (·.1 = "processor".toList)

end MetricsAgent.Host.KernelFiles
