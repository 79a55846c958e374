import ContainerWatch.Time.Instant

/-!
Reading RFC 3339 time stamps: a four-digit year, `T`, `t` or a blank between day and time, seconds
up to 60, any number of fraction digits of which nine count, and a zone `Z`, `z` or hours and
minutes after a plus or minus sign.
-/

namespace ContainerWatch.Rfc3339

open Decimal

def expect? (c : Char) : List Char → Option (List Char)
  | x :: rest => if x = c then some rest else none
  | [] => none

def fraction? : List Char → Option (Nat × List Char)
  | '.' :: rest =>
    let ds := rest.takeWhile Char.isDigit
    (read? ((ds ++ List.replicate 9 '0').take 9)).bind fun n =>
      if ds.isEmpty then none else some (n, rest.dropWhile Char.isDigit)
  | cs => some (0, cs)

/-- The offset of a zone from UTC in seconds, and what follows it. -/
def zone? : List Char → Option (Int × List Char)
  | [] => none
  | c :: rest =>
    if c = 'Z' ∨ c = 'z' then some (0, rest)
    else do
      let sign ← if c = '+' then some 1 else if c = '-' ∨ c = '−' then some (-1) else none
      let (h, rest) ← takeDigits? 2 rest
      let rest ← expect? ':' rest
      let (m, rest) ← takeDigits? 2 rest
      if h < 24 ∧ m < 60 then some (sign * ((h : Int) * 3600 + m * 60), rest) else none

def between? : List Char → Option (List Char)
  | c :: rest => if c = 'T' ∨ c = 't' ∨ c = ' ' then some rest else none
  | [] => none

def readList? (cs : List Char) : Option Instant := do
  let (year, cs) ← takeDigits? 4 cs
  let cs ← expect? '-' cs
  let (month, cs) ← takeDigits? 2 cs
  let cs ← expect? '-' cs
  let (day, cs) ← takeDigits? 2 cs
  let cs ← between? cs
  let (hour, cs) ← takeDigits? 2 cs
  let cs ← expect? ':' cs
  let (minute, cs) ← takeDigits? 2 cs
  let cs ← expect? ':' cs
  let (second, cs) ← takeDigits? 2 cs
  let (nanos, cs) ← fraction? cs
  let (offset, cs) ← zone? cs
  let date : Time.Date := ⟨year, month, day⟩
  if cs.isEmpty ∧ date.isValid ∧ hour < 24 ∧ minute < 60 ∧ second ≤ 60 then
    let leap := second = 60
    let s : Int :=
      date.dayNumber * 86400 + hour * 3600 + minute * 60 + (if leap then 59 else second)
    some ⟨s - offset, nanos + if leap then 1000000000 else 0⟩
  else none

def read? (s : String) : Option Instant := readList? s.toList

end ContainerWatch.Rfc3339
