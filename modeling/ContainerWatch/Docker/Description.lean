import ContainerWatch.Container.Basic
import ContainerWatch.Docker.Field
import ContainerWatch.Time.Rfc3339

/-!
What the Docker Engine tells about a host and its containers: the summary of a container in a
listing, and the details that an inspect gives.
-/

namespace ContainerWatch.Docker

def stateWords : List String :=
  ["", "created", "running", "paused", "restarting", "removing", "exited", "dead"]

def healthWords : List String := ["", "none", "starting", "healthy", "unhealthy"]

def host? (name endpoint : String) (j : Json) : Option Host := do
  let id ← field? "ID" text? j
  let processors ← field? "NCPU" signed? j
  let memory ← field? "MemTotal" signed? j
  return { id := id.getD name, name, endpoint
           processors := (processors.getD 0).toNat % UInt32.size, memory := (memory.getD 0).toNat }

def plainName (name : String) : String := Text.trimStart '/' name

/-- The health in the last parentheses of a status such as `Up 2 minutes (healthy)`. -/
def healthOfStatus? (status : String) : Option Health := do
  let (after, _) ← Text.cutList? '(' status.toList.reverse
  let (inner, _) ← Text.cutList? ')' after.reverse
  Health.ofName? (String.ofList ((Text.dropStart? "health: ".toList inner).getD inner))

/-- The time of a stamp. Years up to 1 stand for a time that has not come. -/
def date? (stamp : String) : Option Instant :=
  (Rfc3339.read? stamp).filter fun t => 1 < t.date.year

def summary? (hostId : String) (j : Json) : Option Container := do
  let id ← field? "Id" text? j
  let names ← field? "Names" (list? text?) j
  let image ← field? "Image" text? j
  let command ← field? "Command" text? j
  let created ← field? "Created" signed? j
  let state ← field? "State" (word? stateWords) j
  let status ← field? "Status" text? j
  let labels ← field? "Labels" (map? text?) j
  return Container.withGroup
    { id := shortId (id.getD ""), name := ((names.getD []).head?.map plainName).getD ""
      image := image.getD "", command := command.getD ""
      created := created.bind Instant.ofSeconds?
      state := (state.map ContainerState.ofName).getD .unknown
      health := status.bind healthOfStatus?, labels := labels.getD [], host := hostId }

def withConfig? (c : Container) (j : Json) : Option Container := do
  let image ← field? "Image" text? j
  let command ← field? "Cmd" (list? text?) j
  let tty ← field? "Tty" flag? j
  let labels ← field? "Labels" (map? text?) j
  return { c with image := image.getD "", command := " ".intercalate (command.getD [])
                  tty := tty.getD false, labels := labels.getD [] }

def healthStatus? (j : Json) : Option (Option String) := field? "Status" (word? healthWords) j

def withState? (c : Container) (j : Json) : Option Container := do
  let status ← field? "Status" (word? stateWords) j
  let startedAt ← field? "StartedAt" text? j
  let finishedAt ← field? "FinishedAt" text? j
  let health ← field? "Health" healthStatus? j
  return { c with state := (status.map ContainerState.ofName).getD .unknown
                  startedAt := startedAt.bind date?
                  finishedAt := (finishedAt.bind date? : Option Instant)
                  health := (health.bind id).bind Health.ofName? }

def details? (hostId : String) (j : Json) : Option Container := do
  let id ← field? "Id" text? j
  let name ← field? "Name" text? j
  let created ← field? "Created" text? j
  let c : Container :=
    { id := shortId (id.getD ""), name := (name.map plainName).getD ""
      created := created.bind date?, host := hostId, fullyLoaded := true }
  let configured ← field? "Config" (withConfig? c) j
  let c := configured.getD c
  let stated ← field? "State" (withState? c) j
  return (stated.getD c).withGroup

end ContainerWatch.Docker
