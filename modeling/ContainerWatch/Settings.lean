import ContainerWatch.Log.Pipeline
import ContainerWatch.Store.Basic
import ContainerWatch.Toml.Reader

/-!
Settings: what a configuration file can say, and what stands where it says nothing. Names that are
not known are passed over; a value of the wrong kind makes the whole file invalid.
-/

namespace ContainerWatch

structure HostSettings where
  name : String
  endpoint : Option String := none
deriving DecidableEq, Repr

/-- The settings of a configuration file. Times are in milliseconds but for the idle time. -/
structure Settings where
  hosts : List HostSettings := []
  window : Nat := 10
  peekTimeout : Nat := 50
  buffer : Nat := 100
  tail : Nat := 300
  parallelism : Nat := 30
  fetchTimeout : Nat := 3000
  subscriberBuffer : Nat := 64
  labels : Entries (List String) := []
  idleSeconds : Nat := 21600
  history : Nat := defaultHistory
deriving Repr

namespace Settings

/-! ### Reading -/

def text? : Toml → Option String
  | .string s => some s
  | _ => none

def natural? : Toml → Option Nat
  | .int n => if 0 ≤ n then some n.toNat else none
  | _ => none

def items? : Toml → Option (List Toml)
  | .array xs => some xs
  | .tables ts => some (ts.map (.table .header))
  | _ => none

/-- The fields of a section. It may also be a list of the values of its fields in their order; and a
time, which has no fields of such names, sets none of them. -/
def fields? (names : List String) : Toml → Option (Entries Toml)
  | .table _ fields => some fields
  | .time _ => some []
  | x => (items? x).map fun xs => names.zip xs

def getD {α : Type} (fields : Entries Toml) (name : String) (read : Toml → Option α) (default : α) :
    Option α :=
  match fields.get? name with
  | some x => read x
  | none => some default

def section? (fields : Entries Toml) (name : String) (names : List String) :
    Option (Entries Toml) :=
  getD fields name (fields? names) []

/-- A host: a name, and an endpoint or none. As a list it must have both. -/
def host? (x : Toml) : Option HostSettings := do
  let isList := (items? x).isSome
  let fields ← fields? ["name", "endpoint"] x
  let name ← (fields.get? "name").bind text?
  let endpoint ← getD fields "endpoint" (fun x => (text? x).map some) none
  if isList && endpoint.isNone then none else some { name, endpoint }

def labels? : Toml → Option (Entries (List String))
  | .table _ fields =>
    fields.mapM fun (key, x) => do
      let values ← (← items? x).mapM text?
      return (key, values)
  | _ => none

def ofFields? (fields : Entries Toml) : Option Settings := do
  let hosts ← getD fields "hosts" (fun x => do (← items? x).mapM host?) []
  let logs ← section? fields "logs" ["group_window_ms", "peek_timeout_ms", "buffer_size", "tail"]
  let store ← section? fields "store"
    ["fetch_parallelism", "fetch_timeout_ms", "subscriber_buffer", "labels"]
  let stats ← section? fields "stats" ["idle_timeout_secs", "history"]
  let base : Settings := {}
  return {
    hosts
    window := ← getD logs "group_window_ms" natural? base.window
    peekTimeout := ← getD logs "peek_timeout_ms" natural? base.peekTimeout
    buffer := ← getD logs "buffer_size" natural? base.buffer
    tail := ← getD logs "tail" natural? base.tail
    parallelism := ← getD store "fetch_parallelism" natural? base.parallelism
    fetchTimeout := ← getD store "fetch_timeout_ms" natural? base.fetchTimeout
    subscriberBuffer := ← getD store "subscriber_buffer" natural? base.subscriberBuffer
    labels := ← getD store "labels" labels? base.labels
    idleSeconds := ← getD stats "idle_timeout_secs" natural? base.idleSeconds
    history := ← getD stats "history" natural? base.history }

def read? (text : String) : Option Settings := (Toml.read? text).bind ofFields?

/-! ### What follows from them -/

def localHost : HostSettings := { name := "local" }

def connections (s : Settings) : List HostSettings :=
  if s.hosts.isEmpty then [localHost] else s.hosts

def tuning (s : Settings) : Log.Tuning :=
  { buffer := s.buffer, peekTimeout := s.peekTimeout, window := s.window }

def filter (s : Settings) (extra : List (String × String)) : LabelFilter :=
  (LabelFilter.all.insertAll (s.labels.flatMap fun p => p.2.map fun v => (p.1, v))).insertAll extra

def sampling (s : Settings) : SamplingSettings :=
  { idleTimeout := 1000 * s.idleSeconds, buffer := s.subscriberBuffer, history := s.history }

def store (s : Settings) (extra : List (String × String)) : StoreSettings :=
  { parallelism := s.parallelism, timeout := s.fetchTimeout, buffer := s.subscriberBuffer
    filter := s.filter extra, sampling := s.sampling }

end Settings

end ContainerWatch
