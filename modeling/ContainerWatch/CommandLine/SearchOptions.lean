import ContainerWatch.Log.Search

/-!
The search options of the command line.
-/

namespace ContainerWatch

structure SearchOptions where
  grep : Option String := none
  fields : List (String × String) := []
  ignoreCase : Bool := false
  invert : Bool := false
  levels : List String := []
deriving DecidableEq, Repr

inductive SearchFault
  | pattern (e : Log.BadPattern)
  | level (name : String)
deriving DecidableEq, Repr

def SearchFault.message : SearchFault → String
  | pattern e => e.message
  | level name => "unknown log level '" ++ name ++ "'"

namespace SearchOptions

def steps (o : SearchOptions) : List Log.SearchStep :=
  (if o.ignoreCase then [.ignoreCase] else []) ++ [.text (o.grep.getD "")] ++
    o.fields.map (fun p => .field p.1 p.2) ++ (if o.invert then [.invert] else [])

def severities : List String → Except SearchFault (List Severity)
  | [] => .ok []
  | name :: rest =>
    let l := Severity.ofAlias name
    if l.isKnown then (severities rest).map (l :: ·) else .error (.level name)

/-- The search that the options ask for; patterns are looked at before severities. -/
def build (o : SearchOptions) : Except SearchFault Log.Search := do
  let s ← (Log.Search.build o.steps).mapError SearchFault.pattern
  let wanted ← severities o.levels
  return { s with wanted }

end SearchOptions

end ContainerWatch
