import ContainerWatch.Docker.Daemon

/-!
Recordings: a JSON value that holds what a Docker Engine answers. An object with a status stands for
a failure with that code, and a string for contents as they are sent.
-/

namespace ContainerWatch.Docker

namespace Recording

def status? (j : Json) : Option Nat := (j.get? "status").bind fun n => n.int?.map Int.toNat

def content : Json → Content
  | .string s => .text s
  | j => .value j

def lines : Json → List Content
  | .string s => (Text.split '\n' s).map .text
  | j => [.value j]

def contents (j : Json) : List Content := (j.array?.getD []).flatMap lines

def answer {α : Type} (read : Json → α) (j : Json) : Answer α :=
  match status? j with
  | some code => .status code
  | none => .contents (read j)

/-- A field of a recording; null is as good as missing. -/
def field? (key : String) (j : Json) : Option Json :=
  match j.get? key with
  | none | some .null => none
  | some x => some x

def answers {α : Type} (read : Json → α) (key : String) (j : Json) : Entries (Answer α) :=
  Entries.ofPairs ((((field? key j).bind Json.fields?).getD []).map fun f => (f.1, answer read f.2))

end Recording

def Daemon.ofRecording (readLog : Json → List UInt8) (j : Json) : Daemon :=
  { info := ((Recording.field? "info" j).map (Recording.answer Recording.content)).getD
      (.contents (.value (.object [])))
    containers := ((Recording.field? "containers" j).map (Recording.answer Recording.content)).getD
      (.contents (.value (.array [])))
    inspect := Recording.answers Recording.content "inspect" j
    stats := Recording.answers Recording.contents "stats" j
    logs := Recording.answers readLog "logs" j
    events := Recording.answer Recording.contents ((j.get? "events").getD .null) }

end ContainerWatch.Docker
