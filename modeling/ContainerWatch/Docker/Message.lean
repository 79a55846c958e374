import ContainerWatch.Container.Event
import ContainerWatch.Docker.Field

/-!
The event messages of the Docker Engine.
-/

namespace ContainerWatch.Docker

def objectWords : List String :=
  ["", "builder", "config", "container", "daemon", "image", "network", "node", "plugin", "secret",
    "service", "volume"]

def scopeWords : List String := ["", "local", "swarm"]

structure Actor where
  id : Option String
  attributes : Option Labels

def actor? (j : Json) : Option Actor := do
  let id ← field? "ID" text? j
  let attributes ← field? "Attributes" (map? text?) j
  return { id, attributes }

def stamp (seconds nanos : Option Int) : Stamp :=
  match nanos.map Instant.ofNanos, seconds.bind Instant.ofSeconds? with
  | some t, _ => .at t
  | none, some t => .at t
  | none, none => .now

/-- The event that a message carries, or nothing for one that is not about a container or lacks its
action or its actor. A refusal means that the message cannot be read. -/
def event? (hostId : String) (j : Json) : Option (Option ContainerEvent) := do
  let object ← field? "Type" (word? objectWords) j
  let action ← field? "Action" text? j
  let actor ← field? "Actor" actor? j
  let _ ← field? "scope" (word? scopeWords) j
  let seconds ← field? "time" signed? j
  let nanos ← field? "timeNano" signed? j
  if object ≠ some "container" then return none
  match action, actor with
  | some name, some { id := some id, attributes } =>
    return some { name, actorId := shortId id, host := hostId, attributes := attributes.getD []
                  time := stamp seconds nanos }
  | _, _ => return none

end ContainerWatch.Docker
