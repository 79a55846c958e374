import ContainerWatch.CommandLine.Run
import ContainerWatch.Docker.Recording
import Std.Time.DateTime.Timestamp

/-!
The program: it reads the files that it needs, runs the command, and prints. An endpoint names a
file with the recording of an engine.
-/

namespace ContainerWatch.Program

def textOf? (path : String) : IO (Option String) := do
  try
    return some (← IO.FS.readFile path)
  catch _ =>
    return none

def logBytes (j : Json) : List UInt8 := Utf8.encode (j.string?.getD "")

def engineOf? (path : String) : IO (Option Docker.Daemon) := do
  let text? ← textOf? path
  return (text?.bind Json.read?).map (Docker.Daemon.ofRecording logBytes)

def engines : List String → IO (Entries Docker.Daemon)
  | [] => return []
  | endpoint :: rest => do
    let others ← engines rest
    match ← engineOf? endpoint with
    | some daemon => return (endpoint, daemon) :: others
    | none => return others

def surroundings (a : Arguments) : IO Surroundings := do
  let path := a.options.config.getD Run.defaultConfig
  let text? ← textOf? path
  let hosts := ((text?.bind Settings.read?).getD {}).hosts
  let known ← engines (hosts.filterMap fun h : HostSettings => h.endpoint)
  return { file := fun p => if p = path then text? else none
           engine := fun endpoint => endpoint.bind fun e => Entries.get? e known }

def clock : IO String := do
  let now ← Std.Time.Timestamp.now
  return (Instant.ofNanos now.toNanosecondsSinceUnixEpoch.val).print

def run (a : Arguments) : IO UInt32 := do
  let outcome := Run.run (← surroundings a) a
  let clock ← clock
  for line in outcome.lines do
    IO.println (line.print clock)
  match outcome.fault with
  | some fault =>
    IO.eprintln ("Error: " ++ fault.message)
    return 1
  | none => return 0

def refuse (fault : ArgumentFault) : IO UInt32 := do
  if fault.isRequest then
    IO.println (if fault = .displayVersion then Arguments.version else Arguments.usage)
    return 0
  else
    IO.eprintln ("error: " ++ fault.message)
    IO.eprintln Arguments.usage
    return 2

end ContainerWatch.Program

def main (arguments : List String) : IO UInt32 :=
  match ContainerWatch.Arguments.read arguments with
  | .ok a => ContainerWatch.Program.run a
  | .error fault => ContainerWatch.Program.refuse fault
