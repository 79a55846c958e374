import ContainerWatch.Host.Scripted
import ContainerWatch.Sampling.Basic
import ContainerWatch.Steps

/-!
Sampling at work on a scripted host: the tasks that may move, the step of each, and rounds of steps
until all of them wait.
-/

namespace ContainerWatch

structure SampledHost where
  host : ScriptedHost
  sampling : Sampling
deriving Repr

inductive SamplingTask
  | idleTimer
  | session (n : Nat)
  | sampler (k : Nat)
  | watchers
deriving DecidableEq, Repr

namespace SampledHost

def stepTimer? (now : Nat) (w : SampledHost) : Option SampledHost :=
  match w.sampling.deadline with
  | some d => if d ≤ now then some { w with sampling := w.sampling.expire } else none
  | none => none

def stepSession? (n : Nat) (w : SampledHost) : Option SampledHost :=
  match w.sampling.sessions[n]? with
  | some { phase := .listing, .. } =>
    some { host := w.host.countListing
           sampling := w.sampling.listed n (w.host.listing w.sampling.filter) }
  | _ => (w.sampling.relay? n).map fun s => { w with sampling := s }

/-- A sampler opens, sends or ends; one that was stopped while it waited is marked at the host. -/
def stepSampler? (k : Nat) (w : SampledHost) : Option SampledHost :=
  match w.sampling.samplers[k]? with
  | some { phase := .opening, id, .. } =>
    some { host := w.host.countSampler id, sampling := w.sampling.opened k (w.host.sampling id) }
  | some { phase := .waiting, id, .. } =>
    (w.sampling.conclude? k).map fun s => { host := w.host.markStopped id, sampling := s }
  | _ => (w.sampling.send? k).map fun s => { w with sampling := s }

def stepWatchers? (w : SampledHost) : Option SampledHost :=
  if w.sampling.subscribers.isRestless then
    let (subscribers, notices) := w.sampling.subscribers.settle
    some { w with sampling := { w.sampling with
                                  subscribers, notices := w.sampling.notices ++ notices } }
  else none

def step? (now : Nat) (w : SampledHost) : SamplingTask → Option SampledHost
  | .idleTimer => w.stepTimer? now
  | .session n => w.stepSession? n
  | .sampler k => w.stepSampler? k
  | .watchers => w.stepWatchers?

def tasks (w : SampledHost) : List SamplingTask :=
  .idleTimer :: (List.range w.sampling.sessions.length).map .session ++
    (List.range w.sampling.samplers.length).map .sampler ++ [.watchers]

def fuel (w : SampledHost) : Nat :=
  let scripted := total List.length w.host.samples.values
  let queued := total (fun t => t.queue.length) w.sampling.sessions
  let left (t : Sampler) : Nat :=
    match t.phase with
    | .sending left => left.length
    | _ => scripted
  8 * (scripted * (w.host.containers.length + 1) + queued + total left w.sampling.samplers +
    w.sampling.sessions.length + w.sampling.samplers.length + w.host.containers.length + 8)

/-- One round: every task that can move takes its turn, until it has to wait. -/
def round? (now : Nat) (w : SampledHost) : Option SampledHost :=
  match w.tasks.filter fun t => (w.step? now t).isSome with
  | [] => none
  | ready => some (ready.foldl (fun w t => exhaust (fun w => w.step? now t) w.fuel w) w)

def settle (now : Nat) (w : SampledHost) : SampledHost := exhaust (round? now) w.fuel w

end SampledHost

end ContainerWatch
