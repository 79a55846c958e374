import ContainerWatch.Docker.Description
import ContainerWatch.Docker.LogBody
import ContainerWatch.Docker.Message
import ContainerWatch.Docker.Reading
import ContainerWatch.Host.Fault
import ContainerWatch.Json.Printer
import ContainerWatch.Json.Reader

/-!
A Docker Engine whose answers are given in advance, and the requests that can be made of it.
-/

namespace ContainerWatch.Docker

inductive Content
  | value (j : Json)
  | text (s : String)

def Content.value? : Content → Option Json
  | value j => some j
  | text s => Json.read? s

def Content.written : Content → String
  | value j => j.print
  | text s => s

def Content.after (earlier : String) (c : Content) : Content :=
  if earlier.isEmpty then c else text (earlier ++ c.written)

inductive Answer (α : Type)
  | status (code : Nat)
  | contents (x : α)

def notFound : Nat := 404

/-- A Docker Engine that answers from memory. What is not there by its identifier is not found. -/
structure Daemon where
  info : Answer Content := .contents (.value (.object []))
  containers : Answer Content := .contents (.value (.array []))
  inspect : Entries (Answer Content) := []
  stats : Entries (Answer (List Content)) := []
  logs : Entries (Answer (List UInt8)) := []
  events : Answer (List Content) := .contents []

structure Delivery (α : Type) where
  items : List α
  fault : Option HostFault := none

/-- The same stream for a receiver that is gone: the first item ends it. -/
def Delivery.unreceived {α : Type} (d : Delivery α) : Delivery α :=
  if d.items.isEmpty then d else { items := [] }

namespace Daemon

def take {α : Type} (read : Json → Option α) : Answer Content → Except HostFault α
  | .status _ => .error .refused
  | .contents c =>
    match c.value?.bind read with
    | some x => .ok x
    | none => .error .refused

def connect (d : Daemon) (name endpoint : String) : Except HostFault Host :=
  take (host? name endpoint) d.info

def list (d : Daemon) (host : Host) (filter : LabelFilter) : Except HostFault (List Container) :=
  (take (list? (summary? host.id)) d.containers).map fun cs =>
    cs.filter fun c => filter.accepts c.labels

def details (d : Daemon) (host : Host) (id : String) : Except HostFault Container :=
  match (d.inspect.get? id).getD (.status notFound) with
  | .status code => .error (if code = notFound then .notFound id else .refused)
  | answer => take (details? host.id) answer

/-- Reads lines one by one and keeps the items in them, up to one that cannot be read. A line that
breaks off within a value goes on in the next; `earlier` is what came of such a value so far. -/
def readAll {α : Type} (read : Json → Option (Option α)) (atEnd : Option HostFault) :
    String → List Content → Delivery α
  | earlier, [] => { items := [], fault := if earlier.isEmpty then atEnd else some .refused }
  | earlier, c :: rest =>
    match (c.after earlier).value? with
    | none => readAll read atEnd (c.after earlier).written rest
    | some j =>
      match read j with
      | none => { items := [], fault := some .refused }
      | some x =>
        let d := readAll read atEnd "" rest
        { d with items := x.toList ++ d.items }

/-- The events of the engine. Their stream is meant to go on for ever, so its end is a fault. -/
def eventStream (d : Daemon) (host : Host) : Delivery ContainerEvent :=
  match d.events with
  | .status _ => { items := [], fault := some .refused }
  | .contents cs => readAll (event? host.id) (some (.io "event stream closed")) "" cs

def sampleStream (d : Daemon) (id : String) : Delivery Usage :=
  match (d.stats.get? id).getD (.status notFound) with
  | .status _ => { items := [], fault := some .refused }
  | .contents cs => readAll (fun j => (counters? j).map (·.usage? (shortId id))) none "" cs

def logStream (d : Daemon) (id : String) : List UInt8 × Option HostFault :=
  match (d.logs.get? id).getD (.status notFound) with
  | .status code => ([], some (if code = notFound then .io "container not found" else .refused))
  | .contents body =>
    let (bytes, complete) := logBytes body
    (bytes, if complete then none else some .refused)

end Daemon

end ContainerWatch.Docker
