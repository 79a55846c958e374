import ContainerWatch.CommandLine.Label
import ContainerWatch.CommandLine.OptionParser
import ContainerWatch.CommandLine.SearchOptions
import ContainerWatch.Docker.LogBody
import ContainerWatch.Time.Rfc3339

/-!
The arguments of the program: options that every command takes, and the commands.
-/

namespace ContainerWatch

structure GlobalOptions where
  config : Option String := none
  labels : List (String × String) := []
  host : Option String := none
deriving DecidableEq, Repr

structure LogsOptions where
  ids : List String := []
  tail : Option Nat := none
  since : Option Instant := none
  follow : Bool := false
  search : SearchOptions := {}
  stdout : Bool := false
  stderr : Bool := false
deriving DecidableEq, Repr

inductive Command
  | ps
  | logs (o : LogsOptions)
  | events
  | stats
deriving DecidableEq, Repr

structure Arguments where
  options : GlobalOptions
  command : Command
deriving DecidableEq, Repr

namespace Arguments

def usage : String :=
  "dockscope [--config FILE] [--label KEY=VALUE]... [--host HOST] ps|logs ID...|events|stats"

def version : String := "dockscope 0.1.0"

structure Level where
  options : GlobalOptions := {}
  logs : LogsOptions := {}

def label (text : String) : Except ArgumentFault (String × String) :=
  (readLabel text).mapError fun _ => .valueRefused

def Level.onOptions (l : Level) (f : GlobalOptions → GlobalOptions) : Level :=
  { l with options := f l.options }

def Level.onLogs (l : Level) (f : LogsOptions → LogsOptions) : Level := { l with logs := f l.logs }

def Level.onSearch (l : Level) (f : SearchOptions → SearchOptions) : Level :=
  l.onLogs fun o => { o with search := f o.search }

def helpOption : OptionSpec Level :=
  { name := "help", letter := some 'h', effect := .informs .displayHelp }

def versionOption : OptionSpec Level :=
  { name := "version", letter := some 'V', effect := .informs .displayVersion }

def sharedOptions : List (OptionSpec Level) :=
  [{ name := "config"
     effect := .value false fun v l =>
      if v.isEmpty then .error .valueMissing
      else .ok (l.onOptions fun o => { o with config := some v }) },
    { name := "label"
      effect := .value true fun v l => do
        let p ← label v
        return l.onOptions fun o => { o with labels := o.labels ++ [p] } },
    { name := "host"
      effect := .value false fun v l => .ok (l.onOptions fun o => { o with host := some v }) },
    helpOption]

def logsOptions : List (OptionSpec Level) :=
  [{ name := "tail"
     effect := .value false fun v l =>
      match Decimal.readWord? v with
      | some n => .ok (l.onLogs fun o => { o with tail := some n })
      | none => .error .valueRefused },
    { name := "since"
      effect := .value false fun v l =>
        match Rfc3339.read? v with
        | some t => .ok (l.onLogs fun o => { o with since := some t })
        | none => .error .valueRefused },
    { name := "follow", letter := some 'f'
      effect := .flag fun l => l.onLogs fun o => { o with follow := true } },
    { name := "grep"
      effect := .value false fun v l => .ok (l.onSearch fun o => { o with grep := some v }) },
    { name := "field"
      effect := .value true fun v l => do
        let p ← label v
        return l.onSearch fun o => { o with fields := o.fields ++ [p] } },
    { name := "ignore-case", letter := some 'i'
      effect := .flag fun l => l.onSearch fun o => { o with ignoreCase := true } },
    { name := "invert-match", letter := some 'v'
      effect := .flag fun l => l.onSearch fun o => { o with invert := true } },
    { name := "level"
      effect := .value true fun v l =>
        .ok (l.onSearch fun o => { o with levels := o.levels ++ [v] }) },
    { name := "stdout", effect := .flag fun l => l.onLogs fun o => { o with stdout := true } },
    { name := "stderr", effect := .flag fun l => l.onLogs fun o => { o with stderr := true } }]

def idOperands : OptionSpec Level :=
  { name := "ids"
    effect := .value true fun v l => .ok (l.onLogs fun o => { o with ids := o.ids ++ [v] }) }

def helpWord : String := "help"

def commandNames : List String := ["ps", "logs", "events", "stats"]

def topSpec : CommandSpec Level :=
  { options := sharedOptions ++ [versionOption], subcommands := commandNames ++ [helpWord] }

def plainSpec : CommandSpec Level := { options := sharedOptions }

def logsSpec : CommandSpec Level :=
  { options := sharedOptions ++ logsOptions, operands := some idOperands }

/-- Help was asked for with the given words: they must name at most one command. -/
def help : List String → ArgumentFault
  | [] => .displayHelp
  | [name] => if topSpec.subcommands.contains name then .displayHelp else .invalidSubcommand
  | _ => .invalidSubcommand

def readLevel (spec : CommandSpec Level) (arguments : List String) :
    Except ArgumentFault Level := do
  let (r, _) ← ArgumentReader.read spec arguments { result := {} }
  return (← r.settle).result

def checkLogs (o : LogsOptions) : Except ArgumentFault LogsOptions :=
  if o.stdout && o.stderr then .error .argumentConflict
  else if o.ids.isEmpty then .error .missingArgument
  else .ok o

def readCommand (call : SubcommandCall) : Except ArgumentFault (GlobalOptions × Command) := do
  if call.name = helpWord then throw (help call.arguments)
  else if call.name = "logs" then
    let l ← readLevel logsSpec call.arguments
    return (l.options, .logs (← checkLogs l.logs))
  else
    let l ← readLevel plainSpec call.arguments
    let command : Command :=
      if call.name = "ps" then .ps else if call.name = "events" then .events else .stats
    return (l.options, command)

/-- Options that stand after the command replace those before it. -/
def combine (before after : GlobalOptions) : GlobalOptions :=
  { config := after.config.or before.config, host := after.host.or before.host
    labels := if after.labels.isEmpty then before.labels else after.labels }

def read (arguments : List String) : Except ArgumentFault Arguments := do
  let (r, call) ← ArgumentReader.read topSpec arguments { result := {} }
  match call with
  | some call =>
    let (after, command) ← readCommand call
    let r ← r.settle
    return { options := combine r.result.options after, command }
  | none =>
    let r ← r.settle
    throw (if r.seen.isEmpty then .nothingGiven else .missingSubcommand)

end Arguments

end ContainerWatch
