import ContainerWatch.Log.Entry

/-!
Grouping related lines, stack traces above all, with one record of lookahead. A line with a severity
of its own that lines without one follow closely starts a group; the group goes on while such lines
stay close, and its last line is its end. Every line of a group has the severity of its start.
-/

namespace ContainerWatch.Log

structure Record where
  entry : Entry
  /-- Whether the line itself shows a severity. -/
  detected : Bool
deriving Inhabited

def Record.ofEntry (e : Entry) : Record := ⟨e, e.hasSeverity⟩

namespace Group

abbrev position (r : Record) : Option Position := r.entry.position

def place (r : Record) (p : Position) : Record :=
  { r with entry := { r.entry with position := some p } }

def grade (r : Record) (l : Severity) : Record := { r with entry := { r.entry with severity := l } }

def close (r : Record) : Record := if position r = some .middle then place r .finish else r

def link (window : Int) (r next : Record) : Record × Record :=
  let near := r.entry.isCloseTo next.entry window
  let (r, next) :=
    if near ∧ r.detected ∧ ¬ next.detected then (place r .start, place next .middle) else (r, next)
  let (r, next) :=
    if position r = some .middle then
      if next.detected ∨ ¬ near then (place r .finish, next) else (r, place next .middle)
    else (r, next)
  if position r = some .start ∨ position r = some .middle then (r, grade next r.entry.severity)
  else (r, next)

def check (window : Int) (r : Record) : Option Record → Record × Option Record
  | none => (close r, none)
  | some next =>
    let (r, next) := link window r next
    (r, some next)

def batchFrom (window : Int) (r : Record) : List Record → List Record
  | [] => [close r]
  | next :: rest => (link window r next).1 :: batchFrom window (link window r next).2 rest

def batch (window : Int) : List Record → List Record
  | [] => []
  | r :: rest => batchFrom window r rest

/-- A window given in milliseconds as a 64-bit word becomes a signed word by wrapping. -/
def windowOfWord (ms : Nat) : Int := (ms : Int).bmod UInt64.size

def defaultWindow : Int := 10

end Group

end ContainerWatch.Log
