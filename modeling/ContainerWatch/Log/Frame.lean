import ContainerWatch.Log.Stream
import ContainerWatch.Notice
import ContainerWatch.Steps
import ContainerWatch.Text.Utf8

/-!
The framed byte streams that runtimes send. Each frame has a header of eight bytes, the stream's tag
in the first and the payload's length, most significant byte first, in the last four; the payload
follows. The output of a terminal comes as plain lines instead.
-/

namespace ContainerWatch.Log

structure Frame where
  text : String
  stream : Stream
deriving DecidableEq, Repr

namespace Frame

def headerLength : Nat := 8

/-- A length below 2³² as four bytes; of a longer one the last four. -/
def lengthBytes (n : Nat) : List UInt8 :=
  [(n / 0x1000000).toUInt8, (n / 0x10000).toUInt8, (n / 0x100).toUInt8, n.toUInt8]

def lengthOf (bytes : List UInt8) : Nat := bytes.foldl (fun n b => n * 256 + b.toNat) 0

def encode (stream : Stream) (payload : List UInt8) : List UInt8 :=
  stream.tag :: 0 :: 0 :: 0 :: (lengthBytes payload.length ++ payload)

def ofPayload (stream : Stream) (payload : List UInt8) : Frame := ⟨Utf8.decode payload, stream⟩

end Frame

inductive StreamFault
  | truncated
  | broken (cause : String)
deriving DecidableEq, Repr

def StreamFault.message : StreamFault → String
  | truncated => "early eof"
  | broken cause => cause

/-- What one read of a stream gives. After `failed` nothing more can be read. -/
inductive Reading
  | frame (f : Frame)
  | shortHeader (recovered : String)
  | failed (fault : StreamFault)
  | finished
deriving DecidableEq, Repr

def Reading.isLast : Reading → Bool
  | failed _ | finished => true
  | _ => false

inductive Ending
  | closed
  | broken (cause : String)
deriving DecidableEq, Repr

/-- What has been read of the frame that is open; bytes stand in reverse. -/
inductive Decoder
  | header (got : List UInt8)
  | payload (stream : Stream) (missing : Nat) (got : List UInt8)
  | line (got : List UInt8)
deriving DecidableEq, Repr

namespace Decoder

def start (tty : Bool) : Decoder := if tty then line [] else header []

def newline : UInt8 := 10

structure Step where
  after : Decoder
  frame : Option Frame := none
  notices : List Notice := []

def afterHeader (bytes : List UInt8) : Step :=
  let stream := Stream.ofTag (bytes.headD 0)
  let notices := if stream = .unknown then [Notice.unknownStream] else []
  match Frame.lengthOf (bytes.drop 4) with
  | 0 => ⟨header [], some (Frame.ofPayload stream []), notices⟩
  | n => ⟨payload stream n [], none, notices⟩

def push : Decoder → UInt8 → Step
  | header got, b =>
    if got.length + 1 < Frame.headerLength then ⟨header (b :: got), none, []⟩
    else afterHeader (b :: got).reverse
  | payload stream missing got, b =>
    if missing ≤ 1 then ⟨header [], some (Frame.ofPayload stream (b :: got).reverse), []⟩
    else ⟨payload stream (missing - 1) (b :: got), none, []⟩
  | line got, b =>
    if b = newline then ⟨line [], some (Frame.ofPayload .stdout (b :: got).reverse), []⟩
    else ⟨line (b :: got), none, []⟩

/-- The state after a read that met the end of the stream, what the read gives, and what is worth
reporting. A header that was begun is taken as a line; a payload that was begun is lost. -/
def close : Decoder → Decoder × Reading × List Notice
  | header [] => (header [], .finished, [])
  | header (b :: got) =>
    (header [], .shortHeader (Utf8.decode (b :: got).reverse), [.shortHeader])
  | payload stream missing got => (payload stream missing got, .failed .truncated, [])
  | line [] => (line [], .finished, [])
  | line (b :: got) => (line [], .frame (Frame.ofPayload .stdout (b :: got).reverse), [])

def stop (d : Decoder) : Ending → Decoder × Reading × List Notice
  | .closed => d.close
  | .broken cause => (d, .failed (.broken cause), [])

/-- Reads bytes up to the end of a frame: the state, the frame if one is complete, the bytes left,
and the notices. -/
def take : Decoder → List UInt8 → Decoder × Option Frame × List UInt8 × List Notice
  | d, [] => (d, none, [], [])
  | d, b :: rest =>
    let s := d.push b
    match s.frame with
    | some f => (s.after, some f, rest, s.notices)
    | none =>
      let r := take s.after rest
      (r.1, r.2.1, r.2.2.1, s.notices ++ r.2.2.2)

end Decoder

structure Delivery where
  arrived : List UInt8 := []
  chunks : List (List UInt8)
  ending : Ending

structure FrameReader where
  decoder : Decoder
  source : Delivery

namespace FrameReader

def ofDelivery (tty : Bool) (source : Delivery) : FrameReader := ⟨Decoder.start tty, source⟩

def readFrom (d : Decoder) (arrived : List UInt8) (ending : Ending) :
    List (List UInt8) → Reading × FrameReader × List Notice
  | [] =>
    match d.take arrived with
    | (d, some f, rest, notices) => (.frame f, ⟨d, rest, [], ending⟩, notices)
    | (d, none, _, notices) =>
      let (d, r, more) := d.stop ending
      (r, ⟨d, [], [], ending⟩, notices ++ more)
  | chunk :: chunks =>
    match d.take arrived with
    | (d, some f, rest, notices) => (.frame f, ⟨d, rest, chunk :: chunks, ending⟩, notices)
    | (d, none, _, notices) =>
      let (r, reader, more) := readFrom d chunk ending chunks
      (r, reader, notices ++ more)

def read (r : FrameReader) : Reading × FrameReader × List Notice :=
  readFrom r.decoder r.source.arrived r.source.ending r.source.chunks

def readMany : Nat → FrameReader → List Reading × List Notice
  | 0, _ => ([], [])
  | fuel + 1, r =>
    let (reading, r, notices) := r.read
    if reading.isLast then ([reading], notices)
    else
      let (more, rest) := readMany fuel r
      (reading :: more, notices ++ rest)

def bytesLeft (r : FrameReader) : Nat :=
  r.source.arrived.length + total List.length r.source.chunks

/-- All readings of a stream; each but the last two takes a byte at least. -/
def readAll (r : FrameReader) : List Reading × List Notice := readMany (r.bytesLeft + 2) r

end FrameReader

def chunksOf (size : Nat) : Nat → List UInt8 → List (List UInt8)
  | _, [] => []
  | 0, rest => [rest]
  | fuel + 1, b :: rest => (b :: rest.take (size - 1)) :: chunksOf size fuel (rest.drop (size - 1))

end ContainerWatch.Log
