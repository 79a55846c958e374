import ContainerWatch.Broadcast
import ContainerWatch.Container.Basic
import ContainerWatch.Host.Fault

/-!
Sampling on demand. A session samples the running containers while somebody holds a reference to it;
when the last reference is given back it lingers for an idle time and then ends with all its
samplers. Each container has at most one registered sampler. The tasks of sessions and samplers move
by the steps `listed`, `relay?`, `opened`, `send?` and `conclude?`, in any order.
-/

namespace ContainerWatch

structure SamplingSettings where
  /-- How many milliseconds a session lingers without references. -/
  idleTimeout : Nat := 21600000
  buffer : Nat := 64
  history : Nat := defaultHistory
deriving DecidableEq, Repr

inductive SamplerPhase
  | opening
  | sending (left : List Usage)
  | waiting
  | ended
deriving Repr

structure Sampler where
  id : String
  session : Nat
  cancelled : Bool := false
  phase : SamplerPhase := .opening
deriving Repr

inductive SessionPhase
  | listing
  | relaying
  | ended
deriving DecidableEq, Repr

structure Session where
  stopped : Bool := false
  phase : SessionPhase := .listing
  queue : List Usage := []
deriving Repr

/-- The state of sampling. Sessions and samplers are numbered in the order of their coming. -/
structure Sampling where
  settings : SamplingSettings
  /-- Containers outside this filter are not sampled when a session begins. -/
  filter : LabelFilter := .all
  subscribers : Broadcast Usage
  active : Nat := 0
  current : Option Nat := none
  sessions : List Session := []
  samplers : List Sampler := []
  registered : Entries Nat := []
  deadline : Option Nat := none
  cancelled : Bool := false
  notices : List Notice := []
deriving Repr

namespace Sampling

def ofSettings (settings : SamplingSettings) (filter : LabelFilter) : Sampling :=
  { settings, filter, subscribers := .ofBuffer settings.buffer }

def note (s : Sampling) (n : Notice) : Sampling := { s with notices := s.notices ++ [n] }

def capacity (s : Sampling) : Nat := max 1 s.settings.buffer

def isRunning (s : Sampling) : Bool := s.current.isSome

def ids (s : Sampling) : List String := s.registered.keys

/-! ### References -/

def start (s : Sampling) : Sampling × Bool :=
  let s := { s with deadline := none, active := s.active + 1 }
  match s.current with
  | some _ => (s, false)
  | none =>
    let sessions := s.sessions ++ [{ phase := .listing }]
    let opened : Sampling := { s with current := some s.sessions.length, sessions }
    (opened.note .sessionStarted, true)

/-- Gives a reference back; when none is left the idle time begins, or begins anew. -/
def stop (now : Nat) (s : Sampling) : Sampling :=
  if 1 < s.active then { s with active := s.active - 1 }
  else { s with active := s.active - 1, deadline := some (now + s.settings.idleTimeout) }

def stopSession (s : Sampling) : Sampling :=
  match s.current with
  | some n =>
    ({ s with current := none
              sessions := s.sessions.modify n fun t => { t with stopped := true } } : Sampling).note
      .sessionStopped
  | none => s

def cancelSamplers (numbers : List Nat) (s : Sampling) : Sampling :=
  { s with samplers := numbers.foldl (fun ts k => ts.modify k fun t => { t with cancelled := true })
                        s.samplers }

def forceStop (s : Sampling) : Sampling :=
  let s := s.stopSession
  { s.cancelSamplers s.registered.values with registered := [] }

def expire (s : Sampling) : Sampling :=
  let s := { s with deadline := none }
  if s.active = 0 then s.forceStop else s

def cancel (s : Sampling) : Sampling := { s with cancelled := true }

/-! ### Samplers -/

def addSampler (session : Nat) (id : String) (s : Sampling) : Sampling :=
  if s.registered.has id then s
  else { s with registered := s.registered.put id s.samplers.length
                samplers := s.samplers ++ [{ id, session }] }

def containerStarted (id : String) (s : Sampling) : Sampling :=
  match s.current with
  | some n => s.addSampler n id
  | none => s

def containerDied (id : String) (s : Sampling) : Sampling :=
  match s.registered.get? id with
  | some k =>
    ({ s.cancelSamplers [k] with registered := s.registered.remove id } : Sampling).note
      .samplerStopped
  | none => s

def isStopped (s : Sampling) (n : Nat) : Bool :=
  s.cancelled || (s.sessions[n]?.map (·.stopped)).getD false

def isCancelled (s : Sampling) (t : Sampler) : Bool := t.cancelled || s.isStopped t.session

/-- Whether the task of a session has ended, so that nobody takes samples from its queue. -/
def hasEnded (s : Sampling) (n : Nat) : Bool :=
  (s.sessions[n]?.map fun t => t.phase == .ended).getD true

/-! ### Tasks -/

def onSession (s : Sampling) (n : Nat) (f : Session → Session) : Sampling :=
  { s with sessions := s.sessions.modify n f }

def onSampler (s : Sampling) (k : Nat) (f : Sampler → Sampler) : Sampling :=
  { s with samplers := s.samplers.modify k f }

def listed (n : Nat) (reply : Except HostFault (List Container)) (s : Sampling) : Sampling :=
  let s := s.onSession n fun t => { t with phase := .relaying }
  match reply with
  | .ok cs => (cs.filter Container.isRunning).foldl (fun s c => s.addSampler n c.id) s
  | .error _ => s.note .sessionListingFailed

def relay? (n : Nat) (s : Sampling) : Option Sampling :=
  match s.sessions[n]? with
  | some { phase := .relaying, queue, .. } =>
    if s.isStopped n then some (s.onSession n fun t => { t with phase := .ended, queue := [] })
    else match queue with
      | [] => none
      | x :: rest =>
        let (subscribers, notices) := s.subscribers.send x
        some { s.onSession n fun t => { t with queue := rest } with
          subscribers, notices := s.notices ++ notices }
  | _ => none

/-- A sampler is over; its registration goes, but not one made since for the same container. -/
def endSampler (k : Nat) (s : Sampling) : Sampling :=
  match s.samplers[k]? with
  | some t =>
    { s.onSampler k fun t => { t with phase := .ended } with
      registered := if s.registered.get? t.id = some k then s.registered.remove t.id
        else s.registered }
  | none => s

def opened (k : Nat) (reply : Except HostFault (List Usage)) (s : Sampling) : Sampling :=
  match reply with
  | .ok samples => s.onSampler k fun t => { t with phase := .sending samples }
  | .error _ => (s.note .samplerFailed).endSampler k

/-- A sampler sends one sample to its session; it waits while the queue is full, and is over if the
session has ended. -/
def send? (k : Nat) (s : Sampling) : Option Sampling :=
  match s.samplers[k]? with
  | some { phase := .sending [], .. } => some (s.onSampler k fun t => { t with phase := .waiting })
  | some { phase := .sending (x :: rest), session, .. } =>
    if s.hasEnded session then some (s.endSampler k)
    else
      let room :=
        (s.sessions[session]?.map fun t => decide (t.queue.length < s.capacity)).getD false
      if room then
        some ((s.onSession session fun t => { t with queue := t.queue ++ [x] }).onSampler k
          fun t => { t with phase := .sending rest })
      else none
  | _ => none

def conclude? (k : Nat) (s : Sampling) : Option Sampling :=
  match s.samplers[k]? with
  | some t =>
    match t.phase with
    | .waiting => if s.isCancelled t then some (s.endSampler k) else none
    | _ => none
  | none => none

end Sampling

end ContainerWatch
