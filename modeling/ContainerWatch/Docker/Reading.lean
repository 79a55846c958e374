import ContainerWatch.Container.Usage
import ContainerWatch.Docker.Field

/-!
The resource readings of the Docker Engine.
-/

namespace ContainerWatch.Docker

structure ProcessorUse where
  total : Option Nat := none
  perProcessor : Option (List Nat) := none

structure Processors where
  used : ProcessorUse := {}
  system : Option Nat := none
  online : Option Nat := none

structure Memory where
  usage : Option Nat := none
  limit : Option Nat := none
  parts : Entries Nat := []

def processorUse? (j : Json) : Option ProcessorUse := do
  let total ← field? "total_usage" (unsigned? UInt64.size) j
  let perProcessor ← field? "percpu_usage" (list? (unsigned? UInt64.size)) j
  return { total, perProcessor }

def processors? (j : Json) : Option Processors := do
  let used ← field? "cpu_usage" processorUse? j
  let system ← field? "system_cpu_usage" (unsigned? UInt64.size) j
  let online ← field? "online_cpus" (unsigned? UInt32.size) j
  return { used := used.getD {}, system, online }

def memory? (j : Json) : Option Memory := do
  let usage ← field? "usage" (unsigned? UInt64.size) j
  let limit ← field? "limit" (unsigned? UInt64.size) j
  let parts ← field? "stats" (map? (unsigned? UInt64.size)) j
  return { usage, limit, parts := parts.getD [] }

/-- The number of processors: as told, else as many as are listed, else one. -/
def Processors.count (p : Processors) : Nat :=
  match p.online.filter (0 < ·), p.used.perProcessor with
  | some n, _ => n
  | none, some xs => xs.length
  | none, none => 1

/-- The page cache that could be given up, under its older or its newer name. -/
def Memory.inactive (m : Memory) : Option Nat :=
  (m.parts.get? "total_inactive_file").or (m.parts.get? "inactive_file")

def counters? (j : Json) : Option Counters := do
  let now := (← field? "cpu_stats" processors? j).getD {}
  let before := (← field? "precpu_stats" processors? j).getD {}
  let memory := (← field? "memory_stats" memory? j).getD {}
  return { cpuTotal := now.used.total.getD 0, earlierCpuTotal := before.used.total.getD 0
           system := now.system.getD 0, earlierSystem := before.system.getD 0
           onlineCpus := now.count, memoryUsage := memory.usage.getD 0
           memoryLimit := memory.limit.getD 0, inactive := memory.inactive }

end ContainerWatch.Docker
