import ContainerWatch.CommandLine.Arguments
import ContainerWatch.CommandLine.Connection
import ContainerWatch.Json.Printer
import ContainerWatch.Log.Tail

/-!
What the commands print, and why they fail.
-/

namespace ContainerWatch

inductive OutputLine
  | container (c : Container)
  | entry (e : Log.Entry)
  | event (e : ContainerEvent)
  | sample (u : Usage)

def OutputLine.print (clock : String) : OutputLine → String
  | container c => (c.toJson clock).print
  | entry e => e.toJson.print
  | event e => (e.toJson clock).print
  | sample u => u.toJson.print

inductive RunFault
  | configUnreadable (path : String)
  | configInvalid (path : String)
  | noSuchHost (name : String)
  | notConnected (host : String)
  | notListed (host : String)
  | noSuchContainer (id : String)
  | search (fault : SearchFault)

def RunFault.message : RunFault → String
  | configUnreadable path => "failed to read config file " ++ path
  | configInvalid path => "invalid config file " ++ path
  | noSuchHost name => "no configured host named " ++ name
  | notConnected host => "failed to connect to host " ++ host
  | notListed host => "failed to list containers on " ++ host
  | noSuchContainer id => "container " ++ id ++ " not found"
  | search fault => fault.message

structure Surroundings where
  file : String → Option String
  engine : Option String → Option Docker.Daemon
  /-- The number of lines after which the user interrupts a command that would go on. -/
  interruptAfter : Option Nat := none

structure Outcome where
  lines : List OutputLine := []
  fault : Option RunFault := none

namespace Run

def defaultConfig : String := "dockscope.toml"

def settingsOf (path text : String) : Except RunFault Settings :=
  match Settings.read? text with
  | some s => .ok s
  | none => .error (.configInvalid path)

/-- The settings to run with: those of the named file, or of the default file if there is one. -/
def settings (around : Surroundings) : Option String → Except RunFault Settings
  | some path =>
    match around.file path with
    | some text => settingsOf path text
    | none => .error (.configUnreadable path)
  | none =>
    match around.file defaultConfig with
    | some text => settingsOf defaultConfig text
    | none => .ok {}

def connectTo (around : Surroundings) (settings : StoreSettings) (h : HostSettings) :
    Except RunFault Connection :=
  match around.engine h.endpoint with
  | some daemon =>
    match daemon.connect h.name (h.endpoint.getD "local") with
    | .ok host => .ok (Connection.connect daemon host settings)
    | .error _ => .error (.notConnected h.name)
  | none => .error (.notConnected h.name)

def connect (around : Surroundings) (s : Settings) (o : GlobalOptions) :
    Except RunFault (List Connection) :=
  let hosts : List HostSettings := match o.host with
    | some name => s.connections.filter fun h : HostSettings => h.name = name
    | none => s.connections
  if hosts.isEmpty then .error (.noSuchHost (o.host.getD ""))
  else hosts.mapM (connectTo around (s.store o.labels))

def ps : List Connection → Outcome
  | [] => {}
  | c :: rest =>
    match c.list .all with
    | .ok cs =>
      let o := ps rest
      { o with lines := cs.map .container ++ o.lines }
    | .error _ => { fault := some (.notListed c.host.name) }

def locate (id : String) : List Connection → Option (Connection × Container) × List Connection
  | [] => (none, [])
  | c :: rest =>
    match c.resolve id with
    | (.ok x, c) => (some (c, x), c :: rest)
    | (.error _, c) =>
      let (found, rest) := locate id rest
      (found, c :: rest)

def sources (ids : List String) (connections : List Connection) :
    Except RunFault (List Log.Source) :=
  match ids with
  | [] => .ok []
  | id :: more =>
    match locate id connections with
    | (some (c, x), connections) => do
      let (bytes, fault) := c.daemon.logStream x.id
      let ending := match fault with
        | some f => Log.Ending.broken (f.message?.getD "")
        | none => .closed
      let rest ← sources more connections
      return { container := x.id, tty := x.tty, log := some bytes, ending } :: rest
    | (none, _) => .error (.noSuchContainer id)

def logs (s : Settings) (o : LogsOptions) (connections : List Connection) : Outcome :=
  match o.search.build.mapError RunFault.search with
  | .error fault => { fault := some fault }
  | .ok search =>
    match sources o.ids connections with
    | .error fault => { fault := some fault }
    | .ok sources =>
      let records := sources.flatMap fun x => (Log.Tail.start s.tuning s.buffer [x]).readAll.1
      { lines := (records.filter search.accepts).map .entry }

def interrupted (around : Surroundings) (lines : List OutputLine) : Outcome :=
  { lines := match around.interruptAfter with
      | some n => lines.take n
      | none => lines }

def perform (around : Surroundings) (s : Settings) (connections : List Connection) :
    Command → Outcome
  | .ps => ps connections
  | .logs o => logs s o connections
  | .events => interrupted around ((connections.flatMap (·.events)).map .event)
  | .stats => interrupted around ((connections.flatMap (·.samples)).map .sample)

def run (around : Surroundings) (a : Arguments) : Outcome :=
  let ready : Except RunFault (Settings × List Connection) := do
    let s ← settings around a.options.config
    return (s, ← connect around s a.options)
  match ready with
  | .ok (s, connections) => perform around s connections a.command
  | .error fault => { fault := some fault }

end Run

end ContainerWatch
