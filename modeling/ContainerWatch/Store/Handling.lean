import ContainerWatch.Store.Lookup

/-!
Handling the events of a feed, one at a time. Some kinds need the host's answer to an inspect first;
what happened in between is the reason why the table is looked at again afterwards.
-/

namespace ContainerWatch

def Container.refresh (c loaded : Container) : Container :=
  { c with
    name := loaded.name, image := loaded.image, command := loaded.command, state := loaded.state
    health := loaded.health, labels := loaded.labels, group := loaded.group
    startedAt := loaded.startedAt, finishedAt := loaded.finishedAt, tty := loaded.tty
    fullyLoaded := true }

def nameAttribute : String := "name"

def ContainerEvent.needsInspect (e : ContainerEvent) : Bool :=
  match e.kind with
  | .create | .start | .update => true
  | .rename => !e.attributes.has nameAttribute
  | _ => false

/-- What handling an event leaves: the store, the event as subscribers are to get it (or nothing),
and a start to be announced after it. -/
structure Handled where
  store : Store
  event : Option ContainerEvent
  start : Option ContainerEvent := none

namespace Store

def startSampling (s : Store) (id : String) : Store := s.onSampling (·.containerStarted id)

def stopSampling (s : Store) (id : String) : Store := s.onSampling (·.containerDied id)

def announceNew (s : Store) (c : Container) : Store :=
  let (newContainers, notices) := s.newContainers.send c
  { s with newContainers, notices := s.notices ++ notices }

def announce (s : Store) (e : ContainerEvent) : Store :=
  let (events, notices) := s.events.send e
  { s with events, notices := s.notices ++ notices }

def amend (s : Store) (e : ContainerEvent) (f : Container → Container) : Handled :=
  match s.tracked.get? e.actorId with
  | some c =>
    let c := f c
    { store := { s with tracked := s.tracked.put e.actorId c }
      event := some { e with container := some c } }
  | none => { store := s, event := some e }

def welcome (s : Store) (e : ContainerEvent) (starts : Bool) (reply : Except HostFault Container) :
    Handled :=
  match reply with
  | .error _ => { store := s.note .containerUnloadable, event := none }
  | .ok c =>
    if s.settings.filter.accepts c.labels then
      let (s, c) := s.upsert c
      let s := if starts then s.startSampling e.actorId else s
      { store := s.announceNew c, event := some { e with container := some c } }
    else { store := s.note .containerOutsideFilter, event := none }

def forget (s : Store) (e : ContainerEvent) : Handled :=
  { store := ({ s with tracked := s.tracked.remove e.actorId } : Store).stopSampling e.actorId
    event := some e }

def bury (s : Store) (e : ContainerEvent) : Handled :=
  let h := s.amend e fun c => { c with state := .exited, finishedAt := some e.time }
  { h with store := h.store.stopSampling e.actorId }

def rename (s : Store) (e : ContainerEvent) (reply : Except HostFault Container) : Handled :=
  match e.attributes.get? nameAttribute, reply with
  | some name, _ => s.amend e fun c => { c with name := wantedName name }
  | none, .ok loaded => s.amend e fun c => { c with name := loaded.name }
  | none, .error _ => { store := s, event := some e }

def impliedStart (e : ContainerEvent) (c : Container) : ContainerEvent :=
  { name := "start", actorId := e.actorId, host := e.host, container := some c }

def renew (s : Store) (e : ContainerEvent) (reply : Except HostFault Container) : Handled :=
  match reply with
  | .error _ => { store := s.note .containerNotReloaded, event := none }
  | .ok loaded =>
    match s.tracked.get? e.actorId with
    | some old =>
      let h := s.amend e fun c => c.refresh loaded
      let c := old.refresh loaded
      if !old.isRunning && c.isRunning then
        { h with store := h.store.startSampling e.actorId, start := some (impliedStart e c) }
      else h
    | none => { store := s, event := some e }

/-- Handles an event by its kind. The reply is looked at only where an inspect was needed. -/
def handle (s : Store) (e : ContainerEvent) (reply : Except HostFault Container) : Handled :=
  match e.kind with
  | .create => s.welcome e false reply
  | .start => s.welcome e true reply
  | .destroy => s.forget e
  | .die => s.bury e
  | .health status => s.amend e fun c => { c with health := some status }
  | .rename => s.rename e reply
  | .update => s.renew e reply
  | .other => { store := s, event := some e }

/-- Tells subscribers of a handled event: all of them without a filter, else those of containers
tracked before or after. -/
def publish (trackedBefore : Bool) (id : String) (h : Handled) : Store :=
  match h.event with
  | none => h.store
  | some e =>
    if h.store.settings.filter.isEmpty || trackedBefore || h.store.tracked.has id then
      let s := h.store.announce e
      match h.start with
      | some start => s.announce start
      | none => s
    else h.store

def receive (s : Store) (e : ContainerEvent) (trackedBefore : Bool)
    (reply : Except HostFault Container) : Store :=
  publish trackedBefore e.actorId (s.handle e reply)

end Store

end ContainerWatch
