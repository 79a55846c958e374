import ContainerWatch.Log.Entry
import ContainerWatch.Pattern.Reader
import ContainerWatch.Text.Cut

/-!
Searching log records. A record passes if its severity is wanted and its text and fields match, or
do not match, if the search is inverted. A search is built step by step: a later text or set of
severities replaces an earlier one, fields add up, and case is ignored from the step on that asks
for it.
-/

namespace ContainerWatch.Log

open Pattern (Program)

inductive SearchStep
  | ignoreCase
  | text (pattern : String)
  | field (path pattern : String)
  | severities (wanted : List Severity)
  | invert
deriving DecidableEq, Repr

structure BadPattern where
  pattern : String
  fault : Pattern.Fault
deriving DecidableEq, Repr

/-- The wording of a bad pattern, up to what is wrong with it. -/
def BadPattern.message (e : BadPattern) : String := "invalid search pattern '" ++ e.pattern ++ "'"

structure FieldClause where
  path : List String
  pattern : Program

structure Search where
  text : Option Program := none
  fields : List FieldClause := []
  wanted : List Severity := []
  inverted : Bool := false
  caseless : Bool := false

def valueAt? (value : Json) : List String → Option Json
  | [] => some value
  | key :: path => (value.get? key).bind (valueAt? · path)

/-- The text by which a value is searched: a string itself, nothing for null, else the JSON text. -/
def searchableText? : Json → Option String
  | .string s => some s
  | .null => none
  | j => some j.print

def FieldClause.accepts (c : FieldClause) (fields : Entries Json) : Bool :=
  match (valueAt? (.object fields) c.path).bind searchableText? with
  | some s => c.pattern.isMatch s
  | none => false

namespace Search

def compile (caseless : Bool) (pattern : String) : Except BadPattern Program :=
  match Pattern.read caseless pattern.toList with
  | .ok p => .ok p.compile
  | .error fault => .error ⟨pattern, fault⟩

def apply (s : Search) : SearchStep → Except BadPattern Search
  | .ignoreCase => .ok { s with caseless := true }
  | .text pattern =>
    if pattern.isEmpty then .ok { s with text := none }
    else (compile s.caseless pattern).map fun p => { s with text := some p }
  | .field path pattern =>
    (compile s.caseless pattern).map fun p =>
      { s with fields := s.fields ++ [⟨Text.split '.' path, p⟩] }
  | .severities wanted => .ok { s with wanted }
  | .invert => .ok { s with inverted := true }

def applyAll (s : Search) : List SearchStep → Except BadPattern Search
  | [] => .ok s
  | step :: rest =>
    match s.apply step with
    | .ok s => s.applyAll rest
    | .error e => .error e

def build (steps : List SearchStep) : Except BadPattern Search := applyAll {} steps

def wants (s : Search) (l : Severity) : Bool := s.wanted.isEmpty || s.wanted.contains l

def hits (s : Search) (e : Entry) : Bool :=
  (match s.text with
    | some p => p.isMatch e.searchText
    | none => true) &&
  s.fields.all fun c =>
    match e.message with
    | .fields fs => c.accepts fs
    | .text _ => false

def accepts (s : Search) (e : Entry) : Bool := s.wants e.severity && (s.hits e != s.inverted)

def highlights (s : Search) (text : String) : List (Nat × Nat) :=
  match s.text with
  | some p => p.ranges text
  | none => []

end Search

end ContainerWatch.Log
