import ContainerWatch.Log.Frame
import ContainerWatch.Time.Instant

/-!
The body of a log request. It holds frames, or plain lines where a record begins with a byte beyond
the stream tags. Frames of the two output streams are framed anew, those of the input are dropped,
and lines pass as they are; a record that the end cuts off is lost.
-/

namespace ContainerWatch.Docker

structure LogRequest where
  follow : Bool := false
  since : Option Instant := none
  tail : Option Nat := none
  stdout : Bool := true
  stderr : Bool := true

def latestSecond : Int := 0x7FFFFFFF

def sinceSeconds (t : Instant) : Int := max 0 (min latestSecond t.seconds)

def LogRequest.query (r : LogRequest) : List (String × String) :=
  [("follow", toString r.follow), ("since", toString ((r.since.map sinceSeconds).getD 0)),
    ("stderr", toString r.stderr), ("stdout", toString r.stdout),
    ("tail", (r.tail.map toString).getD "all"), ("timestamps", "true")]

/-- How the decoding of a body went on: a record's bytes for the reader and the rest of the body,
the end of the body, or its end within a record. -/
inductive LogPiece
  | record (bytes rest : List UInt8)
  | over
  | cut

def reframe (tag : UInt8) (payload : List UInt8) : List UInt8 :=
  if tag = 0 then [] else Log.Frame.encode (.ofTag tag) payload

/-- The first record of a body. A frame of which the body has only the header ends it quietly. -/
def nextPiece : List UInt8 → LogPiece
  | [] => .over
  | tag :: rest =>
    if 2 < tag then
      let line := (tag :: rest).takeWhile (· ≠ 10)
      match (tag :: rest).drop line.length with
      | [] => .cut
      | newline :: rest => .record (line ++ [newline]) rest
    else
      let header := rest.take 7
      let body := rest.drop 7
      let length := Log.Frame.lengthOf (header.drop 3)
      if header.length < 7 then .cut
      else if length ≤ body.length then
        .record (reframe tag (body.take length)) (body.drop length)
      else if body.isEmpty then .over
      else .cut

def readBody : Nat → List UInt8 → List UInt8 × Bool
  | 0, body => ([], body.isEmpty)
  | fuel + 1, body =>
    match nextPiece body with
    | .record bytes rest =>
      let (more, complete) := readBody fuel rest
      (bytes ++ more, complete)
    | .over => ([], true)
    | .cut => ([], false)

def logBytes (body : List UInt8) : List UInt8 × Bool := readBody body.length body

end ContainerWatch.Docker
