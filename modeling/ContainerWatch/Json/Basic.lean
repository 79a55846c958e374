import ContainerWatch.Entries

/-!
JSON values. Objects keep the order of their keys. Integers that fit a 64-bit word are exact; every
other number is a double.
-/

namespace ContainerWatch

inductive Json
  | null
  | bool (b : Bool)
  | int (n : Int)
  | real (x : Float)
  | string (s : String)
  | array (items : List Json)
  | object (fields : List (String × Json))
deriving Inhabited

namespace Json

def fields? : Json → Option (Entries Json)
  | object fs => some fs
  | _ => none

def string? : Json → Option String
  | string s => some s
  | _ => none

def array? : Json → Option (List Json)
  | array xs => some xs
  | _ => none

def int? : Json → Option Int
  | int n => some n
  | _ => none

def bool? : Json → Option Bool
  | bool b => some b
  | _ => none

def get? (key : String) : Json → Option Json
  | object fs => Entries.get? key fs
  | _ => none

def ofText? : Option String → Json
  | some s => string s
  | none => null

end Json

end ContainerWatch
