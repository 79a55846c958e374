import ContainerWatch.Toml.Scalar

/-!
Reading TOML documents.
-/

namespace ContainerWatch.Toml

def lineEnd? (cs : List Char) : Option (List Char) :=
  let cs := match skipSpace cs with
    | '#' :: rest => rest.dropWhile isPlain
    | cs => cs
  match cs with
  | [] => some []
  | cs => newline? cs

def skipLines : Nat → List Char → List Char
  | 0, cs => cs
  | fuel + 1, cs =>
    match skipSpace cs with
    | [] => []
    | c :: rest =>
      if c = '#' ∨ c = '\n' ∨ c = '\r' then
        match lineEnd? (c :: rest) with
        | some rest => skipLines fuel rest
        | none => c :: rest
      else c :: rest

def isKeyChar (c : Char) : Bool := c.isAlphanum || c == '_' || c == '-'

def name? (cs : List Char) : Option (String × List Char) :=
  match cs with
  | [] => none
  | c :: _ =>
    if c = '"' ∨ c = '\'' then shortString? cs
    else if isKeyChar c then some (String.ofList (cs.takeWhile isKeyChar), cs.dropWhile isKeyChar)
    else none

def key? : Nat → List Char → Option (List String × List Char)
  | 0, _ => none
  | fuel + 1, cs => do
    let (name, rest) ← name? (skipSpace cs)
    match skipSpace rest with
    | '.' :: rest =>
      let (names, rest) ← key? fuel rest
      return (name :: names, rest)
    | rest => return ([name], rest)

/-- How many brackets may be open at once, and how many names a key may have. -/
def depthLimit : Nat := 79

def keyOf? (cs : List Char) : Option (List String × List Char) :=
  (key? cs.length cs).filter fun r => r.1.length ≤ depthLimit

mutual

/-- A value. `depth` brackets may still be opened; `fuel` bounds the tokens. -/
def value? : Nat → Nat → List Char → Option (Toml × List Char)
  | 0, _, _ => none
  | fuel + 1, depth, cs =>
    match cs with
    | '[' :: rest =>
      if depth = 0 then none
      else (items? fuel (depth - 1) rest).map fun r => (array r.1, r.2)
    | '{' :: rest =>
      if depth = 0 then none
      else match skipSpace rest with
        | '}' :: rest => some (table .inline [], rest)
        | rest => (pairs? fuel (depth - 1) [] rest).map fun r => (table .inline r.1, r.2)
    | cs => scalarValue? cs

/-- The items of an array up to its closing bracket; the last may be followed by a comma. -/
def items? : Nat → Nat → List Char → Option (List Toml × List Char)
  | 0, _, _ => none
  | fuel + 1, depth, cs =>
    match skipLines cs.length cs with
    | ']' :: rest => some ([], rest)
    | cs => do
      let (x, rest) ← value? fuel depth cs
      match skipLines rest.length rest with
      | ',' :: rest =>
        let (xs, rest) ← items? fuel depth rest
        return (x :: xs, rest)
      | ']' :: rest => return ([x], rest)
      | _ => none

def pairs? : Nat → Nat → Entries Toml → List Char → Option (Entries Toml × List Char)
  | 0, _, _, _ => none
  | fuel + 1, depth, fields, cs => do
    let (names, rest) ← keyOf? cs
    match rest with
    | '=' :: rest =>
      let (x, rest) ← value? fuel depth (skipSpace rest)
      let fields ← assign x names fields
      match skipSpace rest with
      | ',' :: rest => pairs? fuel depth fields rest
      | '}' :: rest => return (fields, rest)
      | _ => none
    | _ => none

end

def pair? (cs : List Char) : Option (List String × Toml × List Char) := do
  let (names, rest) ← keyOf? cs
  match rest with
  | '=' :: rest =>
    let (x, rest) ← value? (2 * cs.length + 2) depthLimit (skipSpace rest)
    return (names, x, rest)
  | _ => none

/-- The table that the last header opened, by the names that lead to it, in the whole document. -/
structure Document where
  fields : Entries Toml := []
  current : List String := []

def Document.enter (d : Document) (names : List String) (repeated : Bool) : Option Document := do
  let last ← names.getLast?
  let fields ← within (if repeated then openRepeated last else openTable last)
    names.dropLast d.fields
  return { fields, current := names }

def Document.statement? (d : Document) (cs : List Char) : Option (Document × List Char) :=
  match cs with
  | '[' :: '[' :: rest => do
    let (names, rest) ← keyOf? rest
    match rest with
    | ']' :: ']' :: rest => return (← d.enter names true, ← lineEnd? rest)
    | _ => none
  | '[' :: rest => do
    let (names, rest) ← keyOf? rest
    match rest with
    | ']' :: rest => return (← d.enter names false, ← lineEnd? rest)
    | _ => none
  | cs => do
    let (names, x, rest) ← pair? cs
    let fields ← within (assign x names) d.current d.fields
    return ({ d with fields }, ← lineEnd? rest)

def Document.read? : Nat → Document → List Char → Option Document
  | 0, _, _ => none
  | fuel + 1, d, cs =>
    match skipLines cs.length cs with
    | [] => some d
    | cs => do
      let (d, rest) ← d.statement? cs
      Document.read? fuel d rest

def byteOrderMark : Char := '\uFEFF'

def read? (text : String) : Option (Entries Toml) :=
  let cs := match text.toList with
    | c :: rest => if c = byteOrderMark then rest else c :: rest
    | [] => []
  (Document.read? (cs.length + 1) {} cs).map (·.fields)

end ContainerWatch.Toml
