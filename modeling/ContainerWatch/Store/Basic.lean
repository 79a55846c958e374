import ContainerWatch.Container.Event
import ContainerWatch.Sampling.Basic

/-!
The table of the containers of a host. A listing fills it, inspects complete its entries, and events
keep it current. Everything here is one indivisible change; what a host answers in between comes in
as an argument.
-/

namespace ContainerWatch

structure StoreSettings where
  parallelism : Nat := 30
  /-- How many milliseconds an inspect of a synchronisation may take. -/
  timeout : Nat := 3000
  /-- How many items wait for a subscriber, and how many events for the store. -/
  buffer : Nat := 64
  filter : LabelFilter := .all
  sampling : SamplingSettings := {}
deriving Repr

inductive FeedPhase
  | opening
  | live
  | broken
  | ended
deriving DecidableEq, Repr

structure Feed where
  cancelled : Bool := false
  phase : FeedPhase := .opening
deriving DecidableEq, Repr

inductive StoreFault
  | containerNotFound (name : String)
  | host (fault : HostFault)
deriving DecidableEq, Repr

def StoreFault.ofHost : HostFault → StoreFault
  | .notFound id => .containerNotFound id
  | fault => .host fault

def StoreFault.message? : StoreFault → Option String
  | containerNotFound name => some ("container " ++ name ++ " not found")
  | host fault => fault.message?

/-- What a store holds. Feeds are numbered in the order of their coming. -/
structure Store where
  settings : StoreSettings
  host : Host
  tracked : Entries Container := []
  /-- The table follows the host, so that a read needs no synchronisation. -/
  connected : Bool := false
  feeds : List Feed := []
  feed : Option Nat := none
  events : Broadcast ContainerEvent
  newContainers : Broadcast Container
  sampling : Sampling
  notices : List Notice := []
deriving Repr

namespace Store

/-- An empty store that is not connected. It is the first subscriber of its own samples. -/
def ofSettings (settings : StoreSettings) (host : Host) : Store :=
  let sampling := Sampling.ofSettings settings.sampling settings.filter
  { settings, host, events := .ofBuffer settings.buffer, newContainers := .ofBuffer settings.buffer
    sampling := { sampling with subscribers := sampling.subscribers.subscribe.1 } }

def ownSubscriber : Nat := 0

def note (s : Store) (n : Notice) : Store := { s with notices := s.notices ++ [n] }

def capacity (s : Store) : Nat := max 1 s.settings.buffer

/-! ### Entries -/

def upsert (s : Store) (c : Container) : Store × Container :=
  let stats := match s.tracked.get? c.id with
    | some old => old.stats
    | none => History.empty s.settings.sampling.history
  let c := { c with stats }
  ({ s with tracked := s.tracked.put c.id c }, c)

def replaceLoaded? (s : Store) (loaded : Container) : Option (Store × Container) :=
  match s.tracked.get? loaded.id with
  | some old =>
    if old.fullyLoaded then none
    else
      let c := { loaded with stats := old.stats }
      some ({ s with tracked := s.tracked.put loaded.id c }, c)
  | none => none

def recordSample (s : Store) (u : Usage) : Store :=
  match s.tracked.get? u.id with
  | some c => { s with tracked := s.tracked.put u.id { c with stats := c.stats.push u } }
  | none => s.note .sampleOfUnknown

def listed (s : Store) (filter : LabelFilter) : List Container :=
  (s.tracked.values.filter fun c => filter.accepts c.labels).mergeSort Container.before

/-! ### Sampling -/

def onSampling (s : Store) (f : Sampling → Sampling) : Store := { s with sampling := f s.sampling }

def shutDown (s : Store) : Store :=
  s.onSampling fun t => { t.cancel with subscribers := t.subscribers.finish ownSubscriber }

def isShut (s : Store) : Bool := s.sampling.cancelled

end Store

end ContainerWatch
