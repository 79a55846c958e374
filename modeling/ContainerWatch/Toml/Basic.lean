import ContainerWatch.Entries

/-!
TOML values, and the rules by which headers and dotted keys build tables: no name is given twice,
and a table that is complete takes nothing more.
-/

namespace ContainerWatch

inductive TableForm
  | header
  /-- As part of the name in another table's header. -/
  | implied
  | dotted
  | inline
deriving DecidableEq, Repr

/-- A TOML value. Floats and times are kept as they were written. -/
inductive Toml
  | string (s : String)
  | int (n : Int)
  | float (written : String)
  | bool (b : Bool)
  | time (written : String)
  | array (items : List Toml)
  | table (form : TableForm) (fields : List (String × Toml))
  | tables (ts : List (List (String × Toml)))
deriving Inhabited

namespace Toml

/-- Changes the table that the names of a header lead to. A name that is new becomes an implied
table, and repeated tables stand for the last of them. -/
def within (f : Entries Toml → Option (Entries Toml)) :
    List String → Entries Toml → Option (Entries Toml)
  | [], fields => f fields
  | name :: path, fields =>
    match fields.get? name with
    | none => (within f path []).map fun t => fields.put name (table .implied t)
    | some (table .inline _) => none
    | some (table form t) => (within f path t).map fun t => fields.put name (table form t)
    | some (tables ts) =>
      match ts.getLast? with
      | some t => (within f path t).map fun t => fields.put name (tables (ts.dropLast ++ [t]))
      | none => none
    | some _ => none

/-- Sets a value under a dotted key. The value's own table must have been made by dotted keys;
tables on the way may also have been implied or repeated. -/
def assign (value : Toml) : List String → Entries Toml → Option (Entries Toml)
  | [], _ => none
  | [name], fields => if fields.has name then none else some (fields.put name value)
  | name :: next :: path, fields =>
    match fields.get? name with
    | none => (assign value (next :: path) []).map fun t => fields.put name (table .dotted t)
    | some (table .dotted t) =>
      (assign value (next :: path) t).map fun t => fields.put name (table .dotted t)
    | some (table .implied t) =>
      if path.isEmpty then none
      else (assign value (next :: path) t).map fun t => fields.put name (table .implied t)
    | some (tables ts) =>
      match path, ts.getLast? with
      | _ :: _, some t =>
        (assign value (next :: path) t).map fun t =>
          fields.put name (tables (ts.dropLast ++ [t]))
      | _, _ => none
    | some _ => none

/-- Opens the table that a header names. Only an implied table may be opened again. -/
def openTable (name : String) (fields : Entries Toml) : Option (Entries Toml) :=
  match fields.get? name with
  | none => some (fields.put name (table .header []))
  | some (table .implied t) => some (fields.put name (table .header t))
  | some _ => none

def openRepeated (name : String) (fields : Entries Toml) : Option (Entries Toml) :=
  match fields.get? name with
  | none => some (fields.put name (tables [[]]))
  | some (tables ts) => some (fields.put name (tables (ts ++ [[]])))
  | some _ => none

end Toml

end ContainerWatch
