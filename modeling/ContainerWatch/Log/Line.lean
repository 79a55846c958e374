import ContainerWatch.Json.Reader
import ContainerWatch.Log.Detect
import ContainerWatch.Log.Fingerprint
import ContainerWatch.Log.Logfmt
import ContainerWatch.Notice
import ContainerWatch.Text.Utf8
import ContainerWatch.Time.Rfc3339

/-!
Reading raw lines: a time stamp, a blank, and a payload that is a JSON object, a line of pairs, or
plain text. A line that does not start with a time stamp is plain text as a whole.
-/

namespace ContainerWatch.Log

structure Payload where
  message : Message
  searchText : String
  notices : List Notice := []

namespace Payload

/-- A payload that is no JSON: pairs if it is a line of them, else plain text. -/
def ofWords (cs : List Char) : Payload :=
  let whole := String.ofList cs
  match Logfmt.read cs with
  | .ok (p :: ps) =>
    let fields := (p :: ps).map fun (k, v) => (k, Json.string v)
    ⟨.fields fields, (Json.object fields).print, []⟩
  | _ => ⟨.text whole, whole, []⟩

/-- Reads a payload. JSON null says as little as an empty line. -/
def read (cs : List Char) : Payload :=
  let whole := String.ofList cs
  if cs.isEmpty then ⟨.text "", whole, []⟩
  else match Json.readList? cs with
    | some (.object fields) => ⟨.fields fields, whole, []⟩
    | some .null => ⟨.text "", whole, []⟩
    | some _ => ⟨.text whole, whole, [.payloadKeptAsText]⟩
    | none => ofWords cs

end Payload

namespace Line

def isBreak (c : Char) : Bool := c == '\n' || c == '\r'

def split? (raw : String) : Option (Instant × Payload) := do
  let (stamp, rest) ← Text.cutList? ' ' raw.toList
  let time ← Rfc3339.readList? stamp
  return (time, Payload.read (Text.dropEndWhile isBreak rest))

def readPlain (raw : String) (stream : Stream) : Entry :=
  let id := Fingerprint.ofBytes (Utf8.encode raw)
  match split? raw with
  | none => { id, message := .text raw, searchText := raw, stream }
  | some (time, payload) =>
    { id, message := payload.message, searchText := payload.searchText, timestamp := time.millis,
      stream }

def read (raw : String) (stream : Stream) : Entry :=
  let e := readPlain raw stream
  { e with severity := Detect.ofMessage e.message }

def notices (raw : String) : List Notice :=
  match split? raw with
  | some (_, payload) => payload.notices
  | none => []

end Line

end ContainerWatch.Log
