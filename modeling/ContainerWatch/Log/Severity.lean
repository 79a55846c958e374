import ContainerWatch.Text.Blank

/-!
Severities of log records and the names they go by.
-/

namespace ContainerWatch

inductive Severity
  | error | warn | info | debug | trace | fatal | unknown
deriving DecidableEq, Repr, Inhabited

namespace Severity

/-- The known severities, in the order in which they are looked for. -/
def known : List Severity := [error, warn, info, debug, trace, fatal]

def name : Severity → String
  | error => "error"
  | warn => "warn"
  | info => "info"
  | debug => "debug"
  | trace => "trace"
  | fatal => "fatal"
  | unknown => "unknown"

def aliases : Severity → List String
  | error => ["error", "err"]
  | warn => ["warn", "warning"]
  | info => ["info", "inf"]
  | debug => ["debug", "dbg"]
  | trace => ["trace"]
  | fatal => ["fatal", "sev", "severe", "crit", "critical"]
  | unknown => []

/-- The severity that a name means, blanks around it and case apart. The letters of all aliases are
ASCII, and no other letter has one of them as its lower case. -/
def ofAlias (s : String) : Severity :=
  (known.find? fun l => l.aliases.contains (Text.asciiLower (Text.trim s))).getD unknown

def isKnown (l : Severity) : Bool := l ≠ unknown

def ofName? (s : String) : Option Severity := (known ++ [unknown]).find? fun l => l.name = s

theorem ofAlias_name {l : Severity} (h : l ∈ known) : ofAlias l.name = l := by
  revert l
  decide

end Severity

end ContainerWatch
