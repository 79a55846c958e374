import ContainerWatch.Log.Frame
import ContainerWatch.Log.Group
import ContainerWatch.Log.Line

/-!
From the bytes of one container to grouped records. A reading task decodes frames, reads their lines
and hands the records to a grouping task through a bounded queue; that task looks one record ahead
and hands its results out through another. A record whose successor does not come in time goes out
without one. The tasks are given by their smallest moves; `settle` is one way to let them take
turns.
-/

namespace ContainerWatch.Log

/-- What can be tuned about a pipeline: the capacity of its queues, how long a record waits for the
next one, and how close grouped records are, both in milliseconds. -/
structure Tuning where
  buffer : Nat := 100
  peekTimeout : Nat := 50
  window : Nat := 10
deriving DecidableEq, Repr

/-- The reading task: it reads, or holds a record that the queue has no room for, or has stopped. -/
inductive ReadingTask
  | reading
  | holding (r : Record)
  | stopped

/-- The grouping task: it waits for a record, or looks ahead from one until a deadline, or holds a
decided record that the output has no room for, or has stopped. -/
inductive GroupingTask
  | waiting
  | peeking (current : Record) (deadline : Nat)
  | holding (current : Record) (next : Option Record)
  | stopped

structure Pipeline where
  tuning : Tuning
  container : String
  clock : Nat := 0
  arrived : List UInt8 := []
  ending : Option Ending := none
  decoder : Decoder
  reading : ReadingTask := .reading
  records : List Record := []
  grouping : GroupingTask := .waiting
  events : List Entry := []
  received : Bool := true
  cancelled : Bool := false
  fault : Option StreamFault := none
  notices : List Notice := []

inductive Move
  | read | pass | stopReading
  | receive | peek | expire | emit | stopGrouping
deriving DecidableEq, Repr

namespace Pipeline

def start (tuning : Tuning) (container : String) (tty : Bool) : Pipeline :=
  { tuning, container, decoder := Decoder.start tty }

def capacity (p : Pipeline) : Nat := max 1 p.tuning.buffer

def window (p : Pipeline) : Int := Group.windowOfWord p.tuning.window

/-! ### What happens outside -/

def arrive (p : Pipeline) (bytes : List UInt8) : Pipeline :=
  { p with arrived := p.arrived ++ bytes }

def finishInput (p : Pipeline) (ending : Ending) : Pipeline := { p with ending := some ending }

def advance (p : Pipeline) (ms : Nat) : Pipeline := { p with clock := p.clock + ms }

def cancel (p : Pipeline) : Pipeline := { p with cancelled := true }

def abandon (p : Pipeline) : Pipeline := { p with received := false, cancelled := true }

def takeEvent? (p : Pipeline) : Option (Entry × Pipeline) :=
  match p.events with
  | [] => none
  | e :: rest => some (e, { p with events := rest })

def isClosed (p : Pipeline) : Bool :=
  p.events.isEmpty && match p.grouping with
    | .stopped => true
    | _ => false

/-! ### The reading task -/

def record (container text : String) (stream : Stream) : Record :=
  Record.ofEntry { Line.read text stream with container }

def hold (p : Pipeline) (text : String) (stream : Stream) : Pipeline :=
  if text.isEmpty then { p with reading := .reading }
  else { p with reading := .holding (record p.container text stream)
                notices := p.notices ++ Line.notices text }

def onReading (p : Pipeline) : Reading → Pipeline
  | .frame f => p.hold f.text f.stream
  | .shortHeader recovered => p.hold recovered .unknown
  | .failed fault =>
    { p with reading := .stopped, fault := some fault, notices := p.notices ++ [.logStreamFailed] }
  | .finished => { p with reading := .stopped }

def read? (p : Pipeline) : Option Pipeline :=
  match p.arrived, p.ending with
  | [], none => none
  | [], some ending =>
    let (decoder, reading, notices) := p.decoder.stop ending
    some (onReading { p with decoder, notices := p.notices ++ notices } reading)
  | arrived, _ =>
    let (decoder, frame, rest, notices) := p.decoder.take arrived
    let p := { p with decoder, arrived := rest, notices := p.notices ++ notices }
    match frame with
    | some f => some (p.hold f.text f.stream)
    | none => some p

def pass? (p : Pipeline) (r : Record) : Option Pipeline :=
  match p.grouping with
  | .stopped => some { p with reading := .stopped }
  | _ =>
    if p.records.length < p.capacity then
      some { p with records := p.records ++ [r], reading := .reading }
    else none

/-! ### The grouping task -/

def readingStopped (p : Pipeline) : Bool :=
  match p.reading with
  | .stopped => true
  | _ => false

def turnTo (p : Pipeline) (r : Record) : Pipeline :=
  { p with grouping := .peeking r (p.clock + p.tuning.peekTimeout) }

def receive? (p : Pipeline) : Option Pipeline :=
  match p.records with
  | r :: rest => some (turnTo { p with records := rest } r)
  | [] => if p.readingStopped then some { p with grouping := .stopped } else none

def decideAbout (p : Pipeline) (current : Record) (next : Option Record) : Pipeline :=
  let (current, next) := Group.check p.window current next
  { p with grouping := .holding current next }

def peek? (p : Pipeline) (current : Record) : Option Pipeline :=
  match p.records with
  | next :: rest => some (decideAbout { p with records := rest } current (some next))
  | [] => none

/-- The grouping task learns that there is no next record yet, or none any more. -/
def expire? (p : Pipeline) (current : Record) (deadline : Nat) : Option Pipeline :=
  if p.records.isEmpty ∧ (p.readingStopped ∨ deadline ≤ p.clock) then
    some (p.decideAbout current none)
  else none

def emit? (p : Pipeline) (current : Record) (next : Option Record) : Option Pipeline :=
  if ¬ p.received then some { p with grouping := .stopped }
  else if p.events.length < p.capacity then
    let p := { p with events := p.events ++ [current.entry] }
    match next with
    | some r => some (p.turnTo r)
    | none => some { p with grouping := .waiting }
  else none

/-! ### Moves -/

def step? (m : Move) (p : Pipeline) : Option Pipeline :=
  match m, p.reading, p.grouping with
  | .read, .reading, _ => p.read?
  | .pass, .holding r, _ => p.pass? r
  | .stopReading, .stopped, _ => none
  | .stopReading, _, _ => if p.cancelled then some { p with reading := .stopped } else none
  | .receive, _, .waiting => p.receive?
  | .peek, _, .peeking c _ => p.peek? c
  | .expire, _, .peeking c d => p.expire? c d
  | .emit, _, .holding c n => p.emit? c n
  | .stopGrouping, _, .stopped => none
  | .stopGrouping, _, _ =>
    if p.cancelled then some { p with grouping := .stopped, records := [] } else none
  | _, _, _ => none

def firstOf (p : Pipeline) (ms : List Move) : Option Pipeline := ms.findSome? (step? · p)

def runTask (ms : List Move) : Nat → Pipeline → Pipeline
  | 0, p => p
  | fuel + 1, p =>
    match p.firstOf ms with
    | some p => runTask ms fuel p
    | none => p

/-- The moves of the reading task; being asked to stop comes first. -/
def readingMoves : List Move := [.stopReading, .read, .pass]

def groupingMoves : List Move := [.stopGrouping, .receive, .peek, .expire, .emit]

def fuel (p : Pipeline) : Nat := 8 * (p.arrived.length + p.records.length + 4)

def takeTurns : Nat → Pipeline → Pipeline
  | 0, p => p
  | turns + 1, p =>
    if (p.firstOf (readingMoves ++ groupingMoves)).isNone then p
    else
      let p := runTask readingMoves p.fuel p
      takeTurns turns (runTask groupingMoves p.fuel p)

def settle (p : Pipeline) : Pipeline := takeTurns p.fuel p

/-- Takes up to `n` events while the tasks go on working; `fuel` bounds the rounds. The result says
whether the output was seen closed. -/
def takeSettled : Nat → Nat → Pipeline → List Entry × Bool × Pipeline
  | 0, _, p => ([], false, p)
  | _, 0, p => ([], false, p)
  | fuel + 1, n + 1, p =>
    match p.takeEvent? with
    | some (e, p) =>
      let p := if p.events.isEmpty then p.settle else p
      let (es, closed, p) := takeSettled fuel n p
      (e :: es, closed, p)
    | none => ([], p.isClosed, p)

end Pipeline

end ContainerWatch.Log
