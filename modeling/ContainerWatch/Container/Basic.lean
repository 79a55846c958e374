import ContainerWatch.Container.State
import ContainerWatch.Container.History
import ContainerWatch.Container.LabelFilter
import ContainerWatch.Container.Usage
import ContainerWatch.Text.Cut
import ContainerWatch.Time.Instant

/-!
Containers and the hosts they run on.
-/

namespace ContainerWatch

structure Host where
  id : String
  name : String
  endpoint : String := ""
  processors : Nat := 0
  memory : Nat := 0
deriving DecidableEq, Repr

def Host.toJson (h : Host) : Json :=
  .object [("id", .string h.id), ("name", .string h.name), ("endpoint", .string h.endpoint),
    ("nCpu", .int h.processors), ("memTotal", .int h.memory)]

def shortIdLength : Nat := 12

def shortId (id : String) : String := Text.take shortIdLength id

def groupLabel : String := "dev.dockscope.group"

def defaultHistory : Nat := 300

structure Container where
  id : String
  name : String := ""
  image : String := ""
  command : String := ""
  created : Option Instant := none
  startedAt : Option Instant := none
  finishedAt : Option Stamp := none
  state : ContainerState := .unknown
  health : Option Health := none
  host : String := ""
  tty : Bool := false
  labels : Labels := []
  group : Option String := none
  stats : History Usage := History.empty defaultHistory
  /-- Whether an inspect filled the entry in, rather than a listing. -/
  fullyLoaded : Bool := false
deriving Repr

namespace Container

def isRunning (c : Container) : Bool := c.state = .running

def withGroup (c : Container) : Container := { c with group := c.labels.get? groupLabel }

def timeJson (t : Option Instant) : Json := Json.ofText? (t.map Instant.print)

/-- The fields of a container as it is printed; `clock` is the text of the present. -/
def toFields (c : Container) (clock : String := "now") : Entries Json :=
  [("id", .string c.id), ("name", .string c.name), ("image", .string c.image),
    ("command", .string c.command), ("created", timeJson c.created),
    ("startedAt", timeJson c.startedAt),
    ("finishedAt", Json.ofText? (c.finishedAt.map (Stamp.print clock))),
    ("state", .string c.state.name), ("health", Json.ofText? (c.health.map Health.name)),
    ("host", .string c.host), ("tty", .bool c.tty), ("labels", c.labels.toJson),
    ("group", Json.ofText? c.group), ("stats", .array (c.stats.items.map Usage.toJson))]

def toJson (clock : String) (c : Container) : Json := .object (c.toFields clock)

def before (a b : Container) : Bool := a.name < b.name || (a.name = b.name && a.id ≤ b.id)

end Container

end ContainerWatch
