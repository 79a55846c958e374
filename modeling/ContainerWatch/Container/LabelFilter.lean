import ContainerWatch.Entries
import ContainerWatch.Json.Basic

/-!
Filters on labels: every key of the filter must be a label with one of the values allowed for it.
-/

namespace ContainerWatch

abbrev Labels := Entries String

/-- Pairs in the order of their keys, by code points. -/
def sortByKey {α : Type} (es : List (String × α)) : List (String × α) :=
  es.mergeSort fun a b => a.1 ≤ b.1

def Labels.toJson (ls : Labels) : Json :=
  .object (sortByKey (ls.map fun p => (p.1, Json.string p.2)))

structure LabelFilter where
  allowed : Entries (List String) := []
deriving DecidableEq, Repr

namespace LabelFilter

def all : LabelFilter := {}

def insert (f : LabelFilter) (key value : String) : LabelFilter :=
  ⟨f.allowed.put key ((f.allowed.get? key).getD [] ++ [value])⟩

def insertAll (f : LabelFilter) (pairs : List (String × String)) : LabelFilter :=
  pairs.foldl (fun f p => f.insert p.1 p.2) f

def isEmpty (f : LabelFilter) : Bool := f.allowed.isEmpty

def accepts (f : LabelFilter) (labels : Labels) : Bool :=
  f.allowed.all fun (key, values) =>
    match labels.get? key with
    | some v => values.contains v
    | none => false

def toJson (f : LabelFilter) : Json :=
  .object (sortByKey (f.allowed.map fun p => (p.1, Json.array (p.2.map Json.string))))

end LabelFilter

end ContainerWatch
