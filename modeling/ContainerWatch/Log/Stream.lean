/-!
The output streams of a container, and the tags they carry in frame headers.
-/

namespace ContainerWatch

inductive Stream
  | stdout | stderr | unknown
deriving DecidableEq, Repr, Inhabited

namespace Stream

def ofTag (tag : UInt8) : Stream :=
  if tag = 1 then stdout else if tag = 2 then stderr else unknown

def tag : Stream → UInt8
  | stdout => 1
  | stderr => 2
  | unknown => 0

def name : Stream → String
  | stdout => "stdout"
  | stderr => "stderr"
  | unknown => "unknown"

def ofName? (s : String) : Option Stream := [stdout, stderr, unknown].find? fun t => t.name = s

@[simp] theorem ofTag_tag (s : Stream) : ofTag s.tag = s := by cases s <;> rfl

end Stream

end ContainerWatch
