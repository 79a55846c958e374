import ContainerWatch.Entries

/-!
Lines of `key=value` pairs. A key ends at `=`, a bare value at the next blank that no backslash
escapes, a quoted value at the next such quote; a backslash stands for the character after it.
-/

namespace ContainerWatch.Log.Logfmt

inductive Fault
  | emptyKey | spaceInKey | unterminatedQuote | danglingKey
deriving DecidableEq, Repr

def Fault.message : Fault → String
  | emptyKey => "empty key"
  | spaceInKey => "space inside key"
  | unterminatedQuote => "unterminated quoted value"
  | danglingKey => "key without value"

abbrev Pair := List Char × List Char

/-- What is being read; characters read so far stand in reverse. -/
inductive Mode
  | key (done : List Char)
  | value (name done : List Char) (escaped : Bool)
  | quoted (name done : List Char) (escaped : Bool)

def pair (name value : List Char) : Pair := (name.reverse, value.reverse)

def Mode.step : Mode → Char → Except Fault (Mode × Option Pair)
  | .key done, c =>
    if c = '=' then
      if done.isEmpty then .error .emptyKey else .ok (.value done [] false, none)
    else if c = ' ' then
      if done.isEmpty then .ok (.key [], none) else .error .spaceInKey
    else .ok (.key (c :: done), none)
  | .value k done true, c => .ok (.value k (c :: done) false, none)
  | .value k done false, c =>
    if c = '"' ∧ done.isEmpty then .ok (.quoted k [] false, none)
    else if c = '\\' then .ok (.value k done true, none)
    else if c = ' ' then .ok (.key [], some (pair k done))
    else .ok (.value k (c :: done) false, none)
  | .quoted k done true, c => .ok (.quoted k (c :: done) false, none)
  | .quoted k done false, c =>
    if c = '\\' then .ok (.quoted k done true, none)
    else if c = '"' then .ok (.key [], some (pair k done))
    else .ok (.quoted k (c :: done) false, none)

def Mode.close : Mode → Except Fault (List Pair)
  | .key [] => .ok []
  | .key (_ :: _) => .error .danglingKey
  | .value k done _ => .ok [pair k done]
  | .quoted _ _ _ => .error .unterminatedQuote

def scan : Mode → List Char → Except Fault (List Pair)
  | m, [] => m.close
  | m, c :: rest =>
    match m.step c with
    | .error e => .error e
    | .ok (after, none) => scan after rest
    | .ok (after, some p) => (scan after rest).map (p :: ·)

def pairs (cs : List Char) : Except Fault (List Pair) := scan (.key []) cs

/-- The fields of a text: a repeated key keeps its first place and takes its last value. -/
def read (cs : List Char) : Except Fault (Entries String) :=
  (pairs cs).map fun ps =>
    Entries.ofPairs (ps.map fun p => (String.ofList p.1, String.ofList p.2))

end ContainerWatch.Log.Logfmt
