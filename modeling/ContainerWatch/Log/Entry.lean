import ContainerWatch.Json.Printer
import ContainerWatch.Log.Severity
import ContainerWatch.Log.Stream

/-!
Log records: what one line of output says, when, how severe it is, and where it stands in a group.
-/

namespace ContainerWatch.Log

inductive Position
  | start | middle | finish
deriving DecidableEq, Repr

def Position.name : Position → String
  | start => "start"
  | middle => "middle"
  | finish => "end"

inductive Message
  | text (s : String)
  | fields (fs : Entries Json)

namespace Message

instance : Inhabited Message := ⟨text ""⟩

def isEmpty : Message → Bool
  | text s => s.isEmpty
  | fields _ => false

def toJson : Message → Json
  | text s => .string s
  | fields fs => .object fs

end Message

structure Entry where
  /-- The fingerprint of the raw line. -/
  id : UInt32
  message : Message
  searchText : String
  /-- Milliseconds since the epoch, 0 for a line without a time. -/
  timestamp : Int := 0
  severity : Severity := .unknown
  position : Option Position := none
  stream : Stream
  container : String := ""
deriving Inhabited

namespace Entry

def hasSeverity (e : Entry) : Bool := e.severity.isKnown

def isCloseTo (a b : Entry) (window : Int) : Bool :=
  (a.timestamp - b.timestamp).natAbs < window

def toJson (e : Entry) : Json :=
  .object
    ([("id", .int e.id.toNat), ("m", e.message.toJson), ("ts", .int e.timestamp),
        ("l", .string e.severity.name)] ++
      (match e.position with
        | some p => [("p", .string p.name)]
        | none => []) ++
      [("s", .string e.stream.name), ("c", .string e.container)])

end Entry

end ContainerWatch.Log
