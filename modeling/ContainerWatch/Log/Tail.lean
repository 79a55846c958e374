import ContainerWatch.Log.Pipeline

/-!
Following several containers at once. Each has a pipeline of its own and a task that moves its
events into one shared queue; records keep their order within a container, not across containers.
-/

namespace ContainerWatch.Log

/-- A container to be followed: its log bytes, if it has a log, and whether it is a terminal. -/
structure Source where
  container : String
  tty : Bool
  log : Option (List UInt8)
  ending : Ending := .closed

inductive FollowTask
  | unopened
  | following (p : Pipeline)
  | holding (p : Pipeline) (e : Entry)
  | concluding (p : Pipeline)
  | done

structure Follower where
  source : Source
  task : FollowTask := .unopened

structure Tail where
  tuning : Tuning
  capacity : Nat
  queue : List Entry := []
  received : Bool := true
  followers : List Follower
  notices : List Notice := []

/-- What one follower may change: itself, the queue, and what is reported. -/
structure Tail.Turn where
  follower : Follower
  queue : List Entry
  notices : List Notice

namespace Tail

def start (tuning : Tuning) (capacity : Nat) (sources : List Source) : Tail :=
  { tuning, capacity := max 1 capacity, followers := sources.map fun s => { source := s } }

def dropReceiver (t : Tail) : Tail := { t with received := false }

def stop (t : Tail) : Tail :=
  { t with followers := t.followers.map fun f => { f with task := .done } }

def Turn.openLog (t : Turn) (tuning : Tuning) : Turn :=
  match t.follower.source.log with
  | none =>
    { t with follower := { t.follower with task := .done }
             notices := t.notices ++ [.logStreamUnavailable] }
  | some bytes =>
    let s := t.follower.source
    let p := ((Pipeline.start tuning s.container s.tty).arrive bytes).finishInput s.ending
    { t with follower := { t.follower with task := .following p } }

def Turn.continueAs (t : Turn) (task : FollowTask) : Turn :=
  { t with follower := { t.follower with task } }

def Turn.send (t : Turn) (capacity : Nat) (received : Bool) (p : Pipeline) (e : Entry) : Turn :=
  if ¬ received then t.continueAs (.concluding p.abandon)
  else if t.queue.length < capacity then
    { t.continueAs (.following p) with queue := t.queue ++ [e] }
  else t.continueAs (.holding p e)

def Turn.step? (t : Turn) (tuning : Tuning) (capacity : Nat) (received : Bool) : Option Turn :=
  match t.follower.task with
  | .unopened => some (t.openLog tuning)
  | .following p =>
    match p.takeEvent? with
    | some (e, p) => some (t.send capacity received p e)
    | none => if p.isClosed then some (t.continueAs (.concluding p.abandon)) else none
  | .holding p e =>
    if ¬ received ∨ t.queue.length < capacity then some (t.send capacity received p e) else none
  | .concluding p =>
    match p.reading, p.grouping with
    | .stopped, .stopped =>
      let report := if p.fault.isSome then [Notice.logStreamEndedWithError] else []
      some { t.continueAs .done with notices := t.notices ++ p.notices ++ report }
    | _, _ => none
  | .done => none

def Turn.run (tuning : Tuning) (capacity : Nat) (received : Bool) : Nat → Turn → Turn
  | 0, t => t
  | fuel + 1, t =>
    match t.step? tuning capacity received with
    | some t => Turn.run tuning capacity received fuel t
    | none => t

def turnPipeline (p : Pipeline) : Pipeline :=
  let p := Pipeline.runTask Pipeline.readingMoves p.fuel p
  Pipeline.runTask Pipeline.groupingMoves p.fuel p

def FollowTask.turn : FollowTask → FollowTask
  | .following p => .following (turnPipeline p)
  | .holding p e => .holding (turnPipeline p) e
  | .concluding p => .concluding (turnPipeline p)
  | task => task

def turnFuel (f : Follower) : Nat :=
  match f.task with
  | .following p | .holding p _ | .concluding p => p.events.length + 4
  | _ => 4

def turn (t : Tail) (f : Follower) : Turn :=
  let r := Turn.run t.tuning t.capacity t.received (turnFuel f) ⟨f, t.queue, t.notices⟩
  { r with follower := { r.follower with task := FollowTask.turn r.follower.task } }

def round (t : Tail) : Tail :=
  let r := t.followers.foldl (fun (acc : Tail × List Follower) f =>
    let r := turn acc.1 f
    ({ acc.1 with queue := r.queue, notices := r.notices }, acc.2 ++ [r.follower])) (t, [])
  { r.1 with followers := r.2 }

def Follower.isDone (f : Follower) : Bool :=
  match f.task with
  | .done => true
  | _ => false

def fuel (t : Tail) : Nat :=
  8 * (total (fun f => (f.source.log.getD []).length + 8) t.followers + 8)

/-- Takes turns and takes what the queue holds until all followers are done; `fuel` bounds the
rounds. The result is what the queue gave. -/
def collect : Nat → Tail → List Entry × Tail
  | 0, t => ([], t)
  | fuel + 1, t =>
    if t.followers.all Follower.isDone then (t.queue, { t with queue := [] })
    else
      let t := t.round
      let (es, rest) := collect fuel { t with queue := [] }
      (t.queue ++ es, rest)

def readAll (t : Tail) : List Entry × Tail := collect t.fuel t

end Tail

end ContainerWatch.Log
