import ContainerWatch.Container.Basic
import ContainerWatch.Host.Fault

/-!
A host whose containers, samples and failures are given in advance. It counts what is asked of it.
-/

namespace ContainerWatch

structure ScriptedHost where
  host : Host
  containers : List Container := []
  /-- What a sampler of a container reports before it waits to be stopped. -/
  samples : Entries (List Usage) := []
  failingSamplers : List String := []
  stoppedSamplers : List String := []
  samplerStarts : Entries Nat := []
  listingFails : Bool := false
  inspectDelay : Nat := 0
  lists : Nat := 0
  inspects : Nat := 0
  inspectsInFlight : Nat := 0
  peakInspects : Nat := 0
  feeds : List Nat := []
deriving Repr

namespace ScriptedHost

/-- A host of which identifier and name are the same, without containers. -/
def named (name : String) : ScriptedHost := { host := { id := name, name } }

def put (h : ScriptedHost) (c : Container) : ScriptedHost :=
  let others := h.containers.filter fun d => d.id ≠ c.id
  { h with containers := others ++ [{ c with host := h.host.id }] }

def remove (h : ScriptedHost) (id : String) : ScriptedHost :=
  { h with containers := h.containers.filter fun c => c.id ≠ id }

def listing (h : ScriptedHost) (filter : LabelFilter) : Except HostFault (List Container) :=
  if h.listingFails then .error (.io "daemon down")
  else .ok ((h.containers.filter fun c => filter.accepts c.labels).map fun c =>
    { c with fullyLoaded := false })

def countListing (h : ScriptedHost) : ScriptedHost := { h with lists := h.lists + 1 }

def details (h : ScriptedHost) (id : String) : Except HostFault Container :=
  match h.containers.find? fun c => c.id = id with
  | some c => .ok { c with fullyLoaded := true }
  | none => .error (.notFound id)

def beginInspect (h : ScriptedHost) : ScriptedHost :=
  let inFlight := h.inspectsInFlight + 1
  { h with inspects := h.inspects + 1, inspectsInFlight := inFlight
           peakInspects := max h.peakInspects inFlight }

def endInspect (h : ScriptedHost) : ScriptedHost :=
  { h with inspectsInFlight := h.inspectsInFlight - 1 }

def sampling (h : ScriptedHost) (id : String) : Except HostFault (List Usage) :=
  if h.failingSamplers.contains id then .error (.io "stats stream broke")
  else .ok ((h.samples.get? id).getD [])

def countSampler (h : ScriptedHost) (id : String) : ScriptedHost :=
  { h with samplerStarts := h.samplerStarts.put id ((h.samplerStarts.get? id).getD 0 + 1) }

def markStopped (h : ScriptedHost) (id : String) : ScriptedHost :=
  if h.stoppedSamplers.contains id then h
  else { h with stoppedSamplers := h.stoppedSamplers ++ [id] }

def startsOf (h : ScriptedHost) (id : String) : Nat := (h.samplerStarts.get? id).getD 0

def hasStopped (h : ScriptedHost) (id : String) : Bool := h.stoppedSamplers.contains id

end ScriptedHost

end ContainerWatch
