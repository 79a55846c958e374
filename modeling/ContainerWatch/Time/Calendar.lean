/-!
The Gregorian calendar, extended to all years. Days are numbered from 1970-01-01. Both directions
count years from March on, so that the leap day ends the year and months have a linear length.
-/

namespace ContainerWatch.Time

structure Date where
  year : Int
  month : Nat
  day : Nat
deriving DecidableEq, Repr

def isLeapYear (y : Int) : Bool := y % 4 = 0 && (y % 100 ≠ 0 || y % 400 = 0)

/-- The number of days of a month, zero for a month that does not exist. -/
def monthLength (y : Int) (m : Nat) : Nat :=
  match m with
  | 2 => if isLeapYear y then 29 else 28
  | 4 | 6 | 9 | 11 => 30
  | 1 | 3 | 5 | 7 | 8 | 10 | 12 => 31
  | _ => 0

namespace Date

def isValid (d : Date) : Bool := 1 ≤ d.day && d.day ≤ monthLength d.year d.month

def dayNumber (d : Date) : Int :=
  let y : Int := if d.month ≤ 2 then d.year - 1 else d.year
  let m : Int := if d.month ≤ 2 then d.month + 9 else d.month - 3
  let era := y / 400
  let yearOfEra := y % 400
  let dayOfYear := (153 * m + 2) / 5 + d.day - 1
  era * 146097 + (yearOfEra * 365 + yearOfEra / 4 - yearOfEra / 100 + dayOfYear) - 719468

def ofDayNumber (n : Int) : Date :=
  let z := n + 719468
  let era := z / 146097
  let dayOfEra := z % 146097
  let yearOfEra := (dayOfEra - dayOfEra / 1460 + dayOfEra / 36524 - dayOfEra / 146096) / 365
  let dayOfYear := dayOfEra - (365 * yearOfEra + yearOfEra / 4 - yearOfEra / 100)
  let m := (5 * dayOfYear + 2) / 153
  let month := if m < 10 then m + 3 else m - 9
  let y := yearOfEra + era * 400
  ⟨if month ≤ 2 then y + 1 else y, month.toNat, (dayOfYear - (153 * m + 2) / 5 + 1).toNat⟩

example : (Date.mk 1970 1 1).dayNumber = 0 ∧ (Date.mk 2000 3 1).dayNumber = 11017 := by decide
example : ofDayNumber 11016 = ⟨2000, 2, 29⟩ ∧ ofDayNumber (-719529) = ⟨-1, 12, 31⟩ := by decide

end Date

end ContainerWatch.Time
