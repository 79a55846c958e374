import ContainerWatch.Sampling.Task
import ContainerWatch.Store.Handling
import ContainerWatch.Store.Sync

/-!
A store at work on a scripted host, under a clock that only moves when it is told to or when nothing
else can. Reads, feeds, the dispatcher of events and samples, announcements, sampling and watchers
are tasks; `World.step?` is what each of them does without interruption.
-/

namespace ContainerWatch

inductive Errand
  | connect
  | list (filter : LabelFilter)
  | find (id : String) (filter : LabelFilter)
  | resolve (text : String)
deriving Repr

inductive Finding
  | nothing
  | containers (cs : List Container)
  | container (c : Container)
deriving Repr

structure Inspecting where
  id : String
  /-- When the host answers. -/
  due : Nat
  /-- When nobody waits for it any more. -/
  deadline : Nat
deriving Repr

structure Enrichment where
  running : List String
  queued : List String
  inFlight : List Inspecting := []
  outcomes : List InspectOutcome := []

inductive ReadPhase
  | entering
  | syncing (sync : Enrichment)
  | connected
  | inspecting (id : String) (due : Nat)
  | done (result : Except StoreFault Finding)

structure StoreRead where
  errand : Errand
  phase : ReadPhase := .entering

inductive Dispatcher
  | idle
  | inspecting (e : ContainerEvent) (trackedBefore : Bool) (due : Nat)
  | stopped

structure World where
  host : ScriptedHost
  store : Store
  clock : Nat := 0
  dispatcher : Dispatcher := .idle
  queue : List ContainerEvent := []
  announcements : List ContainerEvent := []
  reads : List StoreRead := []
  emission : Option ContainerEvent := none

inductive Task
  | read (i : Nat)
  | emission
  | inspects (i : Nat)
  | feed (n : Nat)
  | announcements
  | sampling (t : SamplingTask)
  | dispatcher
  | watchers
deriving DecidableEq, Repr

namespace World

/-! ### Reads -/

def continueRead (w : World) (i : Nat) (r : StoreRead) : World :=
  { w with reads := w.reads.set i r }

def finishRead (w : World) (i : Nat) (r : StoreRead) (result : Except StoreFault Finding) : World :=
  w.continueRead i { r with phase := .done result }

/-- A read begins: if the store is not connected it synchronises first. The scripted host answers a
listing at once, so asking for it and taking it over are one step. -/
def enter (w : World) (i : Nat) (r : StoreRead) : World :=
  if w.store.connected then w.continueRead i { r with phase := .connected }
  else
    let store := w.store.beginSync
    let reply := w.host.listing store.settings.filter
    let w := { w with host := w.host.countListing }
    match reply with
    | .error fault =>
      { w with store := store.failSync }.finishRead i r (.error (.ofHost fault))
    | .ok listing =>
      let store := store.absorb listing
      { w with store }.continueRead i
        { r with phase := .syncing { running := store.running, queued := store.pending } }

/-- A look-up found nothing: a name may still do where an identifier was looked for. -/
def miss (w : World) (i : Nat) (r : StoreRead) (id : String) : World :=
  match r.errand with
  | .resolve text =>
    match w.store.named? (Store.wantedName text) with
    | some id => w.continueRead i { errand := .find id .all }
    | none => w.finishRead i r (.error (.containerNotFound text))
  | _ => w.finishRead i r (.error (.containerNotFound id))

def lookUp (w : World) (i : Nat) (r : StoreRead) (id : String) (filter : LabelFilter) : World :=
  match w.store.lookUp id filter with
  | .missing => { w with store := w.store.note .containerUnknown }.miss i r id
  | .loaded c => w.finishRead i r (.ok (.container c))
  | .unloaded =>
    { w with host := w.host.beginInspect }.continueRead i
      { r with phase := .inspecting id (w.clock + w.host.inspectDelay) }

def pursue (w : World) (i : Nat) (r : StoreRead) : World :=
  match r.errand with
  | .connect => w.finishRead i r (.ok .nothing)
  | .list filter => w.finishRead i r (.ok (.containers (w.store.listed filter)))
  | .find id filter => w.lookUp i r id filter
  | .resolve text => w.lookUp i r (shortId (Store.wantedName text)) .all

def load (w : World) (i : Nat) (r : StoreRead) (id : String) : World :=
  let l := w.store.load id (w.host.details id)
  let w := { w with host := w.host.endInspect, store := l.store
                    announcements := w.announcements ++ l.update.toList }
  match l.answer with
  | .ok c => w.finishRead i r (.ok (.container c))
  | .error (.containerNotFound id) => w.miss i r id
  | .error fault => w.finishRead i r (.error fault)

def stepRead? (w : World) (i : Nat) : Option World :=
  match w.reads[i]? with
  | none => none
  | some r =>
    match r.phase with
    | .entering => some (w.enter i r)
    | .syncing { running, queued, inFlight, outcomes } =>
      match outcomes with
      | o :: rest =>
        some ({ w with store := w.store.enrich o }.continueRead i
          { r with phase := .syncing { running, queued, inFlight, outcomes := rest } })
      | [] =>
        if queued.isEmpty && inFlight.isEmpty then
          some ({ w with store := w.store.endSync running }.continueRead i
            { r with phase := .connected })
        else none
    | .connected => some (w.pursue i r)
    | .inspecting id due => if due ≤ w.clock then some (w.load i r id) else none
    | .done _ => none

/-! ### The inspects of a synchronisation -/

def settled? (clock : Nat) : List Inspecting → Option (Inspecting × List Inspecting)
  | [] => none
  | x :: rest =>
    if x.due ≤ clock ∨ x.deadline ≤ clock then some (x, rest)
    else (settled? clock rest).map fun p => (p.1, x :: p.2)

def stepEnrichment? (w : World) (e : Enrichment) : Option (ScriptedHost × Enrichment) :=
  match settled? w.clock e.inFlight with
  | some (x, inFlight) =>
    let outcome :=
      if x.due ≤ w.clock then InspectOutcome.answered (w.host.details x.id) else .timedOut
    some (w.host.endInspect, { e with inFlight, outcomes := e.outcomes ++ [outcome] })
  | none =>
    match e.queued with
    | [] => none
    | id :: queued =>
      if e.inFlight.length < max 1 w.store.settings.parallelism then
        let x : Inspecting := { id, due := w.clock + w.host.inspectDelay
                                deadline := w.clock + w.store.settings.timeout }
        some (w.host.beginInspect, { e with queued, inFlight := e.inFlight ++ [x] })
      else none

def stepInspects? (w : World) (i : Nat) : Option World :=
  match w.reads[i]? with
  | some { phase := .syncing e, errand } =>
    (w.stepEnrichment? e).map fun (host, e) =>
      { w with host }.continueRead i { errand, phase := .syncing e }
  | _ => none

/-! ### Feeds and what they bring -/

def stepFeed? (w : World) (n : Nat) : Option World :=
  match w.store.feeds[n]? with
  | some f =>
    match f.phase with
    | .opening =>
      some { w with host := { w.host with feeds := w.host.feeds ++ [n] }
                    store := w.store.onFeed n fun f => { f with phase := .live } }
    | .live =>
      if w.store.feedCancelled f then
        some { w with host := { w.host with feeds := [] }, store := w.store.endFeed n }
      else none
    | .broken => some { w with store := w.store.loseFeed n }
    | .ended => none
  | none => none

def stepEmission? (w : World) : Option World :=
  match w.emission with
  | some e =>
    if ¬ w.host.feeds.isEmpty ∧ w.queue.length < w.store.capacity then
      some { w with emission := none, queue := w.queue ++ [e] }
    else none
  | none => none

def disconnect (w : World) : World :=
  { w with
    host := { w.host with feeds := [] }
    store := { w.store with feeds := w.store.feeds.map fun f =>
      if f.phase = .live then { f with phase := .broken } else f } }

def stepAnnouncements? (w : World) : Option World :=
  match w.announcements with
  | e :: rest => some { w with announcements := rest, store := w.store.announce e }
  | [] => none

def dispatch (w : World) (e : ContainerEvent) : World :=
  let trackedBefore := w.store.tracked.has e.actorId
  if e.needsInspect then
    { w with host := w.host.beginInspect
             dispatcher := .inspecting e trackedBefore (w.clock + w.host.inspectDelay) }
  else { w with store := w.store.receive e trackedBefore (.error .cancelled) }

def takeSample? (w : World) : Option World :=
  match w.store.sampling.subscribers.receive Store.ownSubscriber with
  | some (.item u, subscribers) =>
    let store := w.store.onSampling fun t => { t with subscribers }
    some { w with store := store.recordSample u }
  | _ => none

/-- The step of the dispatcher. While it waits for an inspect it handles nothing else. An event comes
before a sample where both wait, which a fair choice need not do; the other orders are those in which
the emission of the event is held back. -/
def stepDispatcher? (w : World) : Option World :=
  match w.dispatcher with
  | .stopped => none
  | .inspecting e trackedBefore due =>
    if due ≤ w.clock then
      some { w with host := w.host.endInspect, dispatcher := .idle
                    store := w.store.receive e trackedBefore (w.host.details e.actorId) }
    else none
  | .idle =>
    if w.store.isShut then some { w with dispatcher := .stopped, queue := [] }
    else match w.queue with
      | e :: rest => some ({ w with queue := rest }.dispatch e)
      | [] => w.takeSample?

/-! ### Everything -/

def sampled (w : World) : SampledHost := ⟨w.host, w.store.sampling⟩

def withSampled (w : World) (s : SampledHost) : World :=
  { w with host := s.host, store := w.store.onSampling fun _ => s.sampling }

def stepWatchers? (w : World) : Option World :=
  if w.store.events.isRestless || w.store.newContainers.isRestless then
    let (events, notices) := w.store.events.settle
    let (newContainers, more) := w.store.newContainers.settle
    let notices := w.store.notices ++ notices ++ more
    some { w with store := { w.store with events, newContainers, notices } }
  else none

def step? (w : World) : Task → Option World
  | .read i => w.stepRead? i
  | .emission => w.stepEmission?
  | .inspects i => w.stepInspects? i
  | .feed n => w.stepFeed? n
  | .announcements => w.stepAnnouncements?
  | .sampling t => (w.sampled.step? w.clock t).map w.withSampled
  | .dispatcher => w.stepDispatcher?
  | .watchers => w.stepWatchers?

/-- All tasks, in the order in which those that can move at the same time take their turns. -/
def tasks (w : World) : List Task :=
  (List.range w.reads.length).map .read ++ [.emission] ++
    (List.range w.reads.length).map .inspects ++
    (List.range w.store.feeds.length).map .feed ++ [.announcements] ++
    w.sampled.tasks.map .sampling ++ [.dispatcher, .watchers]

/-- More steps than one task can take, and more rounds than there can be. -/
def fuel (w : World) : Nat :=
  let waiting (r : StoreRead) : Nat :=
    match r.phase with
    | .syncing e => e.queued.length + e.inFlight.length + e.outcomes.length
    | _ => w.store.tracked.length
  w.sampled.fuel + 8 * (w.reads.length + total waiting w.reads + w.queue.length +
    w.announcements.length + w.store.feeds.length + 8 +
    total (fun s => s.queue.length) w.store.sampling.subscribers.subscribers)

def round? (w : World) : Option World :=
  match w.tasks.filter fun t => (w.step? t).isSome with
  | [] => none
  | ready => some (ready.foldl (fun w t => exhaust (fun w => w.step? t) w.fuel w) w)

def settle (w : World) : World := exhaust round? w.fuel w

def advance (milliseconds : Nat) (w : World) : World := { w with clock := w.clock + milliseconds }

/-! ### Waiting -/

def timers (w : World) : List Nat :=
  (w.reads.flatMap fun r =>
    match r.phase with
    | .inspecting _ due => [due]
    | .syncing e => e.inFlight.flatMap fun x => [x.due, x.deadline]
    | _ => []) ++
  (match w.dispatcher with
    | .inspecting _ _ due => [due]
    | _ => []) ++
  w.store.sampling.deadline.toList

def nextTimer? (w : World) : Option Nat := (w.timers.filter (w.clock < ·)).min?

def result? (r : StoreRead) : Option (Except StoreFault Finding) :=
  match r.phase with
  | .done result => some result
  | _ => none

def isAwaited (w : World) : Bool := w.emission.isSome || w.reads.any fun r => (result? r).isNone

/-- Lets the world go on, and the clock jump when nothing else helps, until nobody waits. -/
def await : Nat → World → World
  | 0, w => w.settle
  | fuel + 1, w =>
    let w := w.settle
    if w.isAwaited then
      match w.nextTimer? with
      | some t => await fuel { w with clock := t }
      | none => w
    else w

def perform (errands : List Errand) (emission : Option ContainerEvent) (w : World) :
    List (Except StoreFault Finding) × World :=
  let w := { w with reads := errands.map fun errand => { errand }, emission }
  let w := w.await (8 * (w.fuel + w.host.containers.length))
  (w.reads.filterMap result?, { w with reads := [], emission := none })

def start (settings : StoreSettings) (host : ScriptedHost) : World :=
  let w : World := { host, store := .ofSettings settings host.host }
  (w.perform [.connect] none).2.settle

def takeNotices (w : World) : List Notice × World :=
  (w.store.notices ++ w.store.sampling.notices,
    { w with store := { w.store with
                          notices := [], sampling := { w.store.sampling with notices := [] } } })

end World

end ContainerWatch
