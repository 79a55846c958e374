import ContainerWatch.Store.Basic

/-!
Synchronisation with the host. A read of a store that is not connected opens a new feed, lists the
containers, and inspects the running ones; if the listing fails the feed is given up again.
-/

namespace ContainerWatch

inductive InspectOutcome
  | answered (reply : Except HostFault Container)
  | timedOut

namespace Store

/-! ### Feeds -/

def onFeed (s : Store) (n : Nat) (f : Feed → Feed) : Store := { s with feeds := s.feeds.modify n f }

def cancelFeed (s : Store) (n : Nat) : Store := s.onFeed n fun f => { f with cancelled := true }

def startFeed (s : Store) : Store :=
  let t := match s.feed with
    | some n => s.cancelFeed n
    | none => s
  { t with feeds := t.feeds ++ [{ phase := .opening }], feed := some t.feeds.length }

def feedCancelled (s : Store) (f : Feed) : Bool := f.cancelled || s.isShut

def endFeed (s : Store) (n : Nat) : Store :=
  (s.onFeed n fun f => { f with phase := .ended }).note .feedCancelled

def loseFeed (s : Store) (n : Nat) : Store :=
  { (s.onFeed n fun f => { f with phase := .ended }).note .feedBroken with connected := false }

/-! ### Listing -/

/-- A synchronisation begins: the store counts as connected from here on. -/
def beginSync (s : Store) : Store := ({ s with connected := true } : Store).startFeed

def failSync (s : Store) : Store :=
  let s := s.note .syncFailed
  let s := match s.feed with
    | some n => s.cancelFeed n
    | none => s
  { s with connected := false }

def absorb (s : Store) (listing : List Container) : Store :=
  let t := listing.foldl (fun s c => (s.upsert c).1) s
  let ids := listing.map (·.id)
  ({ t with tracked := t.tracked.filter fun p => ids.contains p.1 } : Store).note .containersSynced

def running (s : Store) : List String := (s.tracked.values.filter Container.isRunning).map (·.id)

def pending (s : Store) : List String :=
  (s.tracked.values.filter fun c => c.isRunning && !c.fullyLoaded).map (·.id)

def enrich (s : Store) : InspectOutcome → Store
  | .answered (.ok c) =>
    match s.replaceLoaded? c with
    | some (s, _) => s
    | none => s
  | .answered (.error _) => s.note .inspectFailed
  | .timedOut => s.note .inspectTimedOut

/-- A synchronisation is over: the containers that ran when it was listed are sampled. -/
def endSync (s : Store) (running : List String) : Store :=
  s.onSampling fun t => running.foldl (fun t id => t.containerStarted id) t

end Store

end ContainerWatch
