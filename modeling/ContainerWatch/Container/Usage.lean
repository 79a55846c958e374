import ContainerWatch.Json.Basic

/-!
Resource samples: the processor and memory counters of a container, and the percentages computed
from two readings of them.
-/

namespace ContainerWatch

structure Usage where
  id : String
  cpuPercent : Float
  memoryPercent : Float
  memoryBytes : Nat
deriving Repr

def Usage.toJson (u : Usage) : Json :=
  .object [("id", .string u.id), ("cpuPercent", .real u.cpuPercent),
    ("memoryPercent", .real u.memoryPercent), ("memoryUsage", .int u.memoryBytes)]

structure Counters where
  cpuTotal : Nat := 0
  earlierCpuTotal : Nat := 0
  system : Nat := 0
  earlierSystem : Nat := 0
  onlineCpus : Nat := 0
  memoryUsage : Nat := 0
  memoryLimit : Nat := 0
  inactive : Option Nat := none
deriving Repr

namespace Counters

/-- The memory in use without the page cache, if that is known and smaller. -/
def workingSet (c : Counters) : Nat :=
  match c.inactive with
  | some n => if n < c.memoryUsage then c.memoryUsage - n else c.memoryUsage
  | none => c.memoryUsage

/-- The share of the processors used since the earlier reading, in percent of one processor. -/
def cpuPercent (c : Counters) : Float :=
  let cpu := c.cpuTotal - c.earlierCpuTotal
  let system := c.system - c.earlierSystem
  if 0 < cpu ∧ 0 < system then
    Float.ofNat cpu / Float.ofNat system * Float.ofNat c.onlineCpus * 100.0
  else 0.0

def memoryPercent (c : Counters) : Float :=
  if 0 < c.memoryLimit then Float.ofNat c.workingSet / Float.ofNat c.memoryLimit * 100.0 else 0.0

/-- The sample of a reading; one without processor time and memory is not worth reporting. -/
def usage? (c : Counters) (id : String) : Option Usage :=
  if c.cpuPercent == 0.0 ∧ c.workingSet = 0 then none
  else some ⟨id, c.cpuPercent, c.memoryPercent, c.workingSet⟩

end Counters

end ContainerWatch
