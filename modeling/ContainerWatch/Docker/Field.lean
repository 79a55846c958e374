import ContainerWatch.Json.Basic

/-!
The fields of what the Docker Engine answers. Every field may be missing or null; a value of another
kind than expected makes the whole answer unreadable.
-/

namespace ContainerWatch.Docker

def text? (j : Json) : Option String := j.string?

def flag? (j : Json) : Option Bool := j.bool?

def signed? (j : Json) : Option Int :=
  j.int?.bind fun n => if -0x8000000000000000 ≤ n ∧ n < 0x8000000000000000 then some n else none

def unsigned? (bound : Nat) (j : Json) : Option Nat :=
  j.int?.bind fun n => if 0 ≤ n ∧ n < bound then some n.toNat else none

def list? {α : Type} (read : Json → Option α) (j : Json) : Option (List α) :=
  j.array?.bind fun xs => xs.mapM read

def map? {α : Type} (read : Json → Option α) (j : Json) : Option (Entries α) :=
  j.fields?.bind fun fs => fs.mapM fun f => (read f.2).map (f.1, ·)

def word? (words : List String) (j : Json) : Option String :=
  j.string?.bind fun s => if words.contains s then some s else none

/-- A field of an object: missing or null is nothing, a value that cannot be read a refusal. -/
def field? {α : Type} (key : String) (read : Json → Option α) (j : Json) : Option (Option α) :=
  match j.fields? with
  | none => none
  | some fields =>
    match Entries.get? key fields with
    | none | some .null => some none
    | some x => (read x).map some

end ContainerWatch.Docker
