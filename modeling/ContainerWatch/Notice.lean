/-!
What the library reports about its own work while it runs: one cause each, with its weight and its
wording.
-/

namespace ContainerWatch

inductive Weight
  | trace | debug | info | warn | error
deriving DecidableEq, Repr

def Weight.name : Weight → String
  | trace => "TRACE"
  | debug => "DEBUG"
  | info => "INFO"
  | warn => "WARN"
  | error => "ERROR"

inductive Notice
  | shortHeader
  | unknownStream
  | payloadKeptAsText
  | logStreamFailed
  | logStreamUnavailable
  | logStreamEndedWithError
  | finishedSubscriberRemoved
  | closedSubscriberRemoved
  | subscriberLagging
  | subscriberRemoved
  | sessionStarted
  | sessionStopped
  | samplerStopped
  | samplerFailed
  | sessionListingFailed
  | containerUnknown
  | containerVanished
  | containerOutsideFilter
  | containerUnloadable
  | containerNotReloaded
  | containersSynced
  | syncFailed
  | inspectFailed
  | inspectTimedOut
  | feedCancelled
  | feedClosed
  | feedBroken
  | sampleOfUnknown
deriving DecidableEq, Repr

namespace Notice

def weight : Notice → Weight
  | subscriberLagging | samplerStopped | containerOutsideFilter | sampleOfUnknown => .trace
  | payloadKeptAsText | logStreamFailed | finishedSubscriberRemoved | closedSubscriberRemoved
  | subscriberRemoved | sessionStarted | sessionStopped | containersSynced | feedCancelled
  | feedClosed => .debug
  | shortHeader | unknownStream | logStreamUnavailable | logStreamEndedWithError
  | containerUnknown | containerVanished | containerUnloadable | containerNotReloaded
  | inspectFailed | inspectTimedOut => .warn
  | samplerFailed | sessionListingFailed | syncFailed | feedBroken => .error

def message : Notice → String
  | shortHeader => "short frame header, reading line instead"
  | unknownStream => "unknown stream type in frame header"
  | payloadKeptAsText => "json payload is not an object, keeping text"
  | logStreamFailed => "log stream failed"
  | logStreamUnavailable => "failed to open log stream"
  | logStreamEndedWithError => "log stream ended with error"
  | finishedSubscriberRemoved => "removing finished subscriber"
  | closedSubscriberRemoved => "removing closed subscriber"
  | subscriberLagging => "subscriber lagging, dropped item"
  | subscriberRemoved => "subscriber removed"
  | sessionStarted => "stats session started"
  | sessionStopped => "stats session stopped"
  | samplerStopped => "sampler stopped"
  | samplerFailed => "stats sampler failed"
  | sessionListingFailed => "failed to list containers for stats"
  | containerUnknown => "container not found"
  | containerVanished => "container vanished before inspect"
  | containerOutsideFilter => "container outside label filter"
  | containerUnloadable => "failed to load container"
  | containerNotReloaded => "failed to reload updated container"
  | containersSynced => "containers synced"
  | syncFailed => "container resync failed"
  | inspectFailed => "failed to inspect container"
  | inspectTimedOut => "inspect timed out"
  | feedCancelled => "event feed cancelled"
  | feedClosed => "event feed closed"
  | feedBroken => "event feed disconnected"
  | sampleOfUnknown => "stat for unknown container dropped"

def line (n : Notice) : String := n.weight.name ++ " " ++ n.message

end Notice

end ContainerWatch
