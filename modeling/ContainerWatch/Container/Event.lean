import ContainerWatch.Container.Basic

/-!
Life-cycle events of containers.
-/

namespace ContainerWatch

inductive EventKind
  | create | start | destroy | die | update | rename
  | health (status : Health)
  | other
deriving DecidableEq, Repr

namespace EventKind

def ofWord? : String → Option EventKind
  | "create" => some .create
  | "start" => some .start
  | "destroy" => some .destroy
  | "die" => some .die
  | "update" => some .update
  | "rename" => some .rename
  | _ => none

/-- The kind of an event name; a health report carries its status after a colon. -/
def ofName (name : String) : EventKind :=
  match ofWord? name with
  | some kind => kind
  | none =>
    match Text.dropStart? "health_status:".toList name.toList with
    | some status => ((Health.ofName? (String.ofList status)).map health).getD other
    | none => other

end EventKind

structure ContainerEvent where
  name : String
  actorId : String
  host : String
  container : Option Container := none
  attributes : Labels := []
  time : Stamp := .now
deriving Repr

namespace ContainerEvent

def kind (e : ContainerEvent) : EventKind := EventKind.ofName e.name

def toJson (clock : String) (e : ContainerEvent) : Json :=
  .object
    ([("name", .string e.name), ("actorId", .string e.actorId), ("host", .string e.host)] ++
      (match e.container with
        | some c => [("container", c.toJson clock)]
        | none => []) ++
      (if e.attributes.isEmpty then [] else [("actorAttributes", e.attributes.toJson)]) ++
      [("time", .string (e.time.print clock))])

end ContainerEvent

end ContainerWatch
