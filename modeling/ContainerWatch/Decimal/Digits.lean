/-!
Decimal digits of natural numbers, and reading them.
-/

namespace ContainerWatch.Decimal

def digit? (c : Char) : Option Nat :=
  if '0' ≤ c ∧ c ≤ '9' then some (c.toNat - '0'.toNat) else none

def hexDigit? (c : Char) : Option Nat :=
  if '0' ≤ c ∧ c ≤ '9' then some (c.toNat - '0'.toNat)
  else if 'a' ≤ c ∧ c ≤ 'f' then some (c.toNat - 'a'.toNat + 10)
  else if 'A' ≤ c ∧ c ≤ 'F' then some (c.toNat - 'A'.toNat + 10)
  else none

def hexDigit (n : Nat) : Char :=
  if n < 10 then Char.ofNat ('0'.toNat + n) else Char.ofNat ('a'.toNat + (n - 10))

/-- The number that digits write in a base, each read by `value?`. -/
def readBase? (base : Nat) (value? : Char → Option Nat) (cs : List Char) : Option Nat :=
  cs.foldl (fun acc c => do return (← acc) * base + (← value? c)) (some 0)

def read? : List Char → Option Nat
  | [] => none
  | cs => readBase? 10 digit? cs

def takeDigits? (n : Nat) (cs : List Char) : Option (Nat × List Char) :=
  let head := cs.take n
  if head.length = n then (read? head).map (·, cs.drop n) else none

def digits (n : Nat) : List Char := (toString n).toList

def padded (width n : Nat) : List Char :=
  let ds := digits n
  List.replicate (width - ds.length) '0' ++ ds

/-- A number below 2⁶⁴, written with an optional plus sign. -/
def readWord? (s : String) : Option Nat :=
  let cs := match s.toList with
    | '+' :: rest => rest
    | cs => cs
  match read? cs with
  | some n => if n < UInt64.size then some n else none
  | none => none

end ContainerWatch.Decimal
