import ContainerWatch.Docker.Daemon
import ContainerWatch.Settings
import ContainerWatch.Store.Handling
import ContainerWatch.Store.Sync

/-!
The store of one engine as a command uses it. An engine answers from memory, and nothing else
happens meanwhile, so that every read is over at once.
-/

namespace ContainerWatch

structure Connection where
  daemon : Docker.Daemon
  host : Host
  store : Store

namespace Connection

def onStore (c : Connection) (f : Store → Store) : Connection := { c with store := f c.store }

def details (c : Connection) (id : String) : Except HostFault Container :=
  c.daemon.details c.host id

def sync (c : Connection) : Except StoreFault Connection × Connection :=
  if c.store.connected then (.ok c, c)
  else
    let s := c.store.beginSync
    match c.daemon.list c.host s.settings.filter with
    | .error fault => (.error (.ofHost fault), c.onStore fun _ => s.failSync)
    | .ok listing =>
      let s := s.absorb listing
      let running := s.running
      let s := s.pending.foldl (fun s id => s.enrich (.answered (c.details id))) s
      let c := c.onStore fun _ => s.endSync running
      (.ok c, c)

/-- Connects to an engine. A store that cannot be filled is filled by a later read. -/
def connect (daemon : Docker.Daemon) (host : Host) (settings : StoreSettings) : Connection :=
  ({ daemon, host, store := .ofSettings settings host : Connection }).sync.2

def list (c : Connection) (filter : LabelFilter) : Except StoreFault (List Container) :=
  c.sync.1.map fun c => c.store.listed filter

def find (c : Connection) (id : String) : Except StoreFault Container × Connection :=
  match c.sync with
  | (.error fault, c) => (.error fault, c)
  | (.ok c, _) =>
    match c.store.lookUp id .all with
    | .missing => (.error (.containerNotFound id), c.onStore (·.note .containerUnknown))
    | .loaded x => (.ok x, c)
    | .unloaded =>
      let l := c.store.load id (c.details id)
      (l.answer, c.onStore fun _ => l.store)

def resolve (c : Connection) (text : String) : Except StoreFault Container × Connection :=
  let wanted := Store.wantedName text
  match c.find (shortId wanted) with
  | (.error (.containerNotFound _), c) =>
    match c.store.named? wanted with
    | some id => c.find id
    | none => (.error (.containerNotFound text), c)
  | found => found

def handle (c : Connection) (e : ContainerEvent) : List ContainerEvent × Connection :=
  let trackedBefore := c.store.tracked.has e.actorId
  let (events, n) := c.store.events.subscribe
  let s := ({ c.store with events } : Store).receive e trackedBefore (c.details e.actorId)
  let heard := match s.events.drain n with
    | some (heard, _, _) => heard
    | none => []
  (heard, c.onStore fun old => { s with events := old.events })

def handleAll (c : Connection) : List ContainerEvent → List ContainerEvent
  | [] => []
  | e :: rest =>
    let (heard, c) := c.handle e
    heard ++ c.handleAll rest

def events (c : Connection) : List ContainerEvent := c.handleAll (c.daemon.eventStream c.host).items

/-- The samples that a session relays: those of all running containers that the engine lists. -/
def samples (c : Connection) : List Usage :=
  match c.daemon.list c.host c.store.settings.filter with
  | .ok cs => (cs.filter Container.isRunning).flatMap fun x => (c.daemon.sampleStream x.id).items
  | .error _ => []

end Connection

end ContainerWatch
