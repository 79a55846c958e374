import ContainerWatch.Time.Calendar
import ContainerWatch.Decimal.Digits

/-!
Instants in UTC to the nanosecond. A leap second is the second before it with a fraction of one
second or more.
-/

namespace ContainerWatch

/-- Seconds since 1970-01-01T00:00:00Z and nanoseconds after that; from 10⁹ on they lie in a leap
second. -/
structure Instant where
  seconds : Int
  nanos : Nat
deriving DecidableEq, Repr, Inhabited

namespace Instant

def millis (t : Instant) : Int := t.seconds * 1000 + (t.nanos / 1000000 : Nat)

def date (t : Instant) : Time.Date := Time.Date.ofDayNumber (t.seconds / 86400)

/-- The instant that whole seconds name, within the years -262143 to 262142. -/
def ofSeconds? (secs : Int) : Option Instant :=
  if -8334601228800 ≤ secs ∧ secs ≤ 8210266876799 then some ⟨secs, 0⟩ else none

def ofNanos (n : Int) : Instant := ⟨n / 1000000000, (n % 1000000000).toNat⟩

def yearText (y : Int) : List Char :=
  if 0 ≤ y ∧ y ≤ 9999 then Decimal.padded 4 y.toNat
  else (if y < 0 then '-' else '+') :: Decimal.padded (if y < 0 then 4 else 5) y.natAbs

/-- A fraction of a second with 0, 3, 6 or 9 digits, the fewest that lose nothing. -/
def fractionText (n : Nat) : List Char :=
  if n = 0 then []
  else if n % 1000000 = 0 then '.' :: Decimal.padded 3 (n / 1000000)
  else if n % 1000 = 0 then '.' :: Decimal.padded 6 (n / 1000)
  else '.' :: Decimal.padded 9 n

def text (t : Instant) : List Char :=
  let d := t.date
  let s := (t.seconds % 86400).toNat
  let leap := 1000000000 ≤ t.nanos
  let second := s % 60 + (if leap then 1 else 0)
  let two (n : Nat) := Decimal.padded 2 n
  yearText d.year ++ '-' :: two d.month ++ '-' :: two d.day ++ 'T' :: two (s / 3600) ++
    ':' :: two (s / 60 % 60) ++ ':' :: two second ++ fractionText (t.nanos % 1000000000) ++ ['Z']

def print (t : Instant) : String := String.ofList t.text

end Instant

/-- A time that a runtime gives, or the moment at which something was made here. -/
inductive Stamp
  | at (t : Instant)
  | now
deriving DecidableEq, Repr

def Stamp.print (clock : String) : Stamp → String
  | .at t => t.print
  | .now => clock

instance : Coe (Option Instant) (Option Stamp) := ⟨Option.map .at⟩

end ContainerWatch
