import ContainerWatch.Notice

/-!
Fan-out to bounded subscribers. A broadcast never waits: an item is lost for a subscriber whose
queue is full, and for that one only. A subscriber leaves once it is done or its receiver is gone;
the next broadcast notices that, or the watcher that each subscriber has.
-/

namespace ContainerWatch

/-- A subscriber, kept after it has left so that its receiver can still be read. -/
structure Subscriber (α : Type) where
  queue : List α := []
  enrolled : Bool := true
  /-- The watcher has not run yet. -/
  watched : Bool := true
  done : Bool := false
  dropped : Bool := false
deriving Repr

structure Broadcast (α : Type) where
  capacity : Nat
  subscribers : List (Subscriber α) := []
deriving Repr

inductive Receipt (α : Type)
  | item (x : α)
  | empty
  | closed
  | dropped
deriving Repr

namespace Subscriber

variable {α : Type}

def isClosed (s : Subscriber α) : Bool := !s.enrolled && !s.watched

def isLeaving (s : Subscriber α) : Bool := s.done || s.dropped

def offer (capacity : Nat) (x : α) (s : Subscriber α) : Subscriber α × List Notice :=
  if ¬ s.enrolled then (s, [])
  else if s.done then ({ s with enrolled := false }, [.finishedSubscriberRemoved])
  else if s.dropped then ({ s with enrolled := false }, [.closedSubscriberRemoved])
  else if s.queue.length < capacity then ({ s with queue := s.queue ++ [x] }, [])
  else (s, [.subscriberLagging])

def watch (s : Subscriber α) : Subscriber α × List Notice :=
  if s.watched ∧ s.isLeaving then
    ({ s with enrolled := false, watched := false },
     if s.enrolled then [.subscriberRemoved] else [])
  else (s, [])

def receive (s : Subscriber α) : Receipt α × Subscriber α :=
  if s.dropped then (.dropped, s)
  else match s.queue with
    | x :: rest => (.item x, { s with queue := rest })
    | [] => (if s.isClosed then .closed else .empty, s)

def finish (s : Subscriber α) : Subscriber α := { s with done := true }

def drop (s : Subscriber α) : Subscriber α := { s with dropped := true, queue := [] }

end Subscriber

namespace Broadcast

variable {α : Type}

/-- No subscribers yet; a queue holds at least one item. -/
def ofBuffer (buffer : Nat) : Broadcast α := ⟨max 1 buffer, []⟩

/-- Enrols a subscriber; its number is the number of those before it. -/
def subscribe (b : Broadcast α) : Broadcast α × Nat :=
  ({ b with subscribers := b.subscribers ++ [{}] }, b.subscribers.length)

def onAll (b : Broadcast α) (f : Subscriber α → Subscriber α × List Notice) :
    Broadcast α × List Notice :=
  ({ b with subscribers := b.subscribers.map fun s => (f s).1 },
    b.subscribers.flatMap fun s => (f s).2)

def onOne (b : Broadcast α) (i : Nat) (f : Subscriber α → Subscriber α) : Broadcast α :=
  { b with subscribers := b.subscribers.modify i f }

def send (b : Broadcast α) (x : α) : Broadcast α × List Notice := b.onAll (·.offer b.capacity x)

def isRestless (b : Broadcast α) : Bool := b.subscribers.any fun s => s.watched && s.isLeaving

def settle (b : Broadcast α) : Broadcast α × List Notice := b.onAll Subscriber.watch

def receive (b : Broadcast α) (i : Nat) : Option (Receipt α × Broadcast α) :=
  b.subscribers[i]?.map fun s =>
    (s.receive.1, { b with subscribers := b.subscribers.set i s.receive.2 })

/-- Reads a queue until it gives no item: the items, what was read last, and what is left. -/
def drain (b : Broadcast α) (i : Nat) : Option (List α × Receipt α × Broadcast α) :=
  b.subscribers[i]?.map fun s =>
    let rest := { s with queue := [] }
    (s.queue, rest.receive.1, { b with subscribers := b.subscribers.set i rest })

def finish (b : Broadcast α) (i : Nat) : Broadcast α := b.onOne i Subscriber.finish

def drop (b : Broadcast α) (i : Nat) : Broadcast α := b.onOne i Subscriber.drop

def size (b : Broadcast α) : Nat := b.subscribers.countP (·.enrolled)

def isEmpty (b : Broadcast α) : Bool := b.size == 0

end Broadcast

end ContainerWatch
