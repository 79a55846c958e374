import ContainerWatch.Json.Basic
import ContainerWatch.Decimal.Digits

/-!
Reading JSON text. A repeated key keeps its first place and takes its last value, at most 127
containers may be open at once, and nothing but blanks may surround the value.
-/

namespace ContainerWatch.Json

def isGap (c : Char) : Bool := c == ' ' || c == '\t' || c == '\n' || c == '\r'

def skipGaps (cs : List Char) : List Char := cs.dropWhile isGap

def hex4? : List Char → Option (Nat × List Char)
  | a :: b :: c :: d :: rest =>
    (Decimal.readBase? 16 Decimal.hexDigit? [a, b, c, d]).map (·, rest)
  | _ => none

/-- The character after a backslash. A leading surrogate needs its partner in a second escape, and
neither half may stand alone. -/
def escape? : List Char → Option (Char × List Char)
  | '"' :: rest => some ('"', rest)
  | '\\' :: rest => some ('\\', rest)
  | '/' :: rest => some ('/', rest)
  | 'b' :: rest => some ('\x08', rest)
  | 'f' :: rest => some ('\x0C', rest)
  | 'n' :: rest => some ('\n', rest)
  | 'r' :: rest => some ('\r', rest)
  | 't' :: rest => some ('\t', rest)
  | 'u' :: rest => do
    let (hi, rest) ← hex4? rest
    if 0xD800 ≤ hi ∧ hi < 0xDC00 then
      match rest with
      | '\\' :: 'u' :: rest =>
        let (lo, rest) ← hex4? rest
        if 0xDC00 ≤ lo ∧ lo < 0xE000 then
          some (Char.ofNat (0x10000 + (hi - 0xD800) * 0x400 + (lo - 0xDC00)), rest)
        else none
      | _ => none
    else if 0xDC00 ≤ hi ∧ hi < 0xE000 then none
    else some (Char.ofNat hi, rest)
  | _ => none

def readString : Nat → List Char → Option (List Char × List Char)
  | 0, _ => none
  | _, [] => none
  | fuel + 1, c :: rest =>
    if c = '"' then some ([], rest)
    else if c = '\\' then
      match escape? rest with
      | none => none
      | some (x, rest) => (readString fuel rest).map fun r => (x :: r.1, r.2)
    else if c.toNat < 0x20 then none
    else (readString fuel rest).map fun r => (c :: r.1, r.2)

def scaleDown (x : Float) (n : Nat) : Float :=
  if n ≤ 308 then x / Float.ofScientific 1 false n
  else if x == 0.0 then x
  else scaleDown (x / Float.ofScientific 1 false 308) (n - 308)
termination_by n

/-- A double from a 64-bit significand and a decimal exponent. It is rounded twice, once as the
significand becomes a double and once as that is scaled. A number beyond the doubles is none. -/
def realOfParts (negative : Bool) (significand : Nat) (exponent : Int) : Option Float :=
  let sign (x : Float) : Float := if negative then -x else x
  let x := significand.toUInt64.toFloat
  if exponent < 0 then some (sign (scaleDown x exponent.natAbs))
  else if significand = 0 then some (sign 0.0)
  else if exponent ≤ 308 then
    let y := x * Float.ofScientific 1 false exponent.toNat
    if y.isInf then none else some (sign y)
  else none

/-- A significand below 2⁶⁴, the power of ten it is scaled by, and whether it still takes digits. -/
structure Significand where
  value : Nat := 0
  exponent : Int := 0
  full : Bool := false

def Significand.whole (s : Significand) (d : Nat) : Significand :=
  let v := s.value * 10 + d
  if s.full ∨ UInt64.size ≤ v then { s with exponent := s.exponent + 1, full := true }
  else { s with value := v }

def Significand.fraction (s : Significand) (d : Nat) : Significand :=
  let v := s.value * 10 + d
  if s.full ∨ UInt64.size ≤ v then { s with full := true }
  else { s with value := v, exponent := s.exponent - 1 }

def spanDigits (cs : List Char) : List Nat × List Char :=
  ((cs.takeWhile Char.isDigit).map fun c => c.toNat - '0'.toNat, cs.dropWhile Char.isDigit)

def exponent? (cs : List Char) : Option (Int × List Char) :=
  let (negative, cs) := match cs with
    | '+' :: rest => (false, rest)
    | '-' :: rest => (true, rest)
    | cs => (false, cs)
  match spanDigits cs with
  | ([], _) => none
  | (ds, rest) =>
    let n : Nat := ds.foldl (fun acc d => min (acc * 10 + d) 0x80000000) 0
    some (if negative then -(n : Int) else n, rest)

def numberTail? (negative : Bool) (s : Significand) (cs : List Char) : Option (Json × List Char) :=
  let scaled (s : Significand) (e : Int) (rest : List Char) : Option (Json × List Char) :=
    (realOfParts negative s.value (s.exponent + e)).map fun x => (real x, rest)
  let withExponent (s : Significand) : List Char → Option (Json × List Char)
    | c :: rest =>
      if c = 'e' ∨ c = 'E' then do
        let (e, rest) ← exponent? rest
        scaled s e rest
      else scaled s 0 (c :: rest)
    | [] => scaled s 0 []
  match cs with
  | '.' :: rest =>
    match spanDigits rest with
    | ([], _) => none
    | (ds, rest) => withExponent (ds.foldl Significand.fraction { s with full := false }) rest
  | 'e' :: _ | 'E' :: _ => withExponent s cs
  | rest =>
    if s.full then scaled s 0 rest
    else if ¬ negative then some (int s.value, rest)
    else if s.value = 0 ∨ 0x8000000000000000 < s.value then scaled s 0 rest
    else some (int (-(s.value : Int)), rest)

def number? (cs : List Char) : Option (Json × List Char) :=
  let (negative, cs) := match cs with
    | '-' :: rest => (true, rest)
    | cs => (false, cs)
  match spanDigits cs with
  | ([], _) => none
  | (0 :: _ :: _, _) => none
  | (ds, rest) => numberTail? negative (ds.foldl Significand.whole {}) rest

def word? (w : String) (value : Json) (cs : List Char) : Option (Json × List Char) :=
  match w.toList.isPrefixOf? cs with
  | some rest => some (value, rest)
  | none => none

mutual

/-- A value at the start of the text. `depth` containers may still be opened; `fuel` bounds the
tokens. -/
def value? : Nat → Nat → List Char → Option (Json × List Char)
  | 0, _, _ => none
  | fuel + 1, depth, cs =>
    match skipGaps cs with
    | [] => none
    | '"' :: rest =>
      (readString rest.length.succ rest).map fun r => (string (String.ofList r.1), r.2)
    | '[' :: rest =>
      if depth = 0 then none
      else match skipGaps rest with
        | ']' :: rest => some (array [], rest)
        | rest => (items? fuel (depth - 1) rest).map fun r => (array r.1, r.2)
    | '{' :: rest =>
      if depth = 0 then none
      else match skipGaps rest with
        | '}' :: rest => some (object [], rest)
        | rest => (members? fuel (depth - 1) [] rest).map fun r => (object r.1, r.2)
    | 'n' :: rest => word? "ull" null rest
    | 't' :: rest => word? "rue" (bool true) rest
    | 'f' :: rest => word? "alse" (bool false) rest
    | cs => number? cs

def items? : Nat → Nat → List Char → Option (List Json × List Char)
  | 0, _, _ => none
  | fuel + 1, depth, cs => do
    let (x, rest) ← value? fuel depth cs
    match skipGaps rest with
    | ',' :: rest => (items? fuel depth rest).map fun r => (x :: r.1, r.2)
    | ']' :: rest => some ([x], rest)
    | _ => none

def members? : Nat → Nat → Entries Json → List Char → Option (Entries Json × List Char)
  | 0, _, _, _ => none
  | fuel + 1, depth, fields, cs =>
    match skipGaps cs with
    | '"' :: rest => do
      let (key, rest) ← readString rest.length.succ rest
      match skipGaps rest with
      | ':' :: rest =>
        let (x, rest) ← value? fuel depth rest
        let fields := fields.put (String.ofList key) x
        match skipGaps rest with
        | ',' :: rest => members? fuel depth fields rest
        | '}' :: rest => some (fields, rest)
        | _ => none
      | _ => none
    | _ => none

end

def depthLimit : Nat := 127

def readList? (cs : List Char) : Option Json :=
  match value? (2 * cs.length + 2) depthLimit cs with
  | some (j, rest) => if (skipGaps rest).isEmpty then some j else none
  | none => none

def read? (s : String) : Option Json := readList? s.toList

end ContainerWatch.Json
