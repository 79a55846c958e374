import ContainerWatch.Text.Blank

/-!
The life-cycle state and the health of a container.
-/

namespace ContainerWatch

inductive ContainerState
  | created | running | paused | restarting | removing | exited | dead | unknown
deriving DecidableEq, Repr, Inhabited

namespace ContainerState

def name : ContainerState → String
  | created => "created"
  | running => "running"
  | paused => "paused"
  | restarting => "restarting"
  | removing => "removing"
  | exited => "exited"
  | dead => "dead"
  | unknown => "unknown"

def named : List ContainerState :=
  [created, running, paused, restarting, removing, exited, dead]

def ofName (s : String) : ContainerState :=
  (named.find? fun st => st.name = Text.asciiLower s).getD unknown

theorem ofName_name (st : ContainerState) : ofName st.name = st := by
  cases st <;> decide

end ContainerState

inductive Health
  | healthy | unhealthy | starting
deriving DecidableEq, Repr

namespace Health

def name : Health → String
  | healthy => "healthy"
  | unhealthy => "unhealthy"
  | starting => "starting"

/-- The health that a name stands for; blanks around it and its ASCII case do not matter. -/
def ofName? (s : String) : Option Health :=
  [healthy, unhealthy, starting].find? fun h => h.name = Text.asciiLower (Text.trim s)

theorem ofName?_name (h : Health) : ofName? h.name = some h := by
  cases h <;> decide

end Health

end ContainerWatch
