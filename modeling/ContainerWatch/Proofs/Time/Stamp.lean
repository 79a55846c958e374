import ContainerWatch.Proofs.Decimal
import ContainerWatch.Time.Rfc3339

/-!
What a time stamp can say. Its numbers are in their ranges, so the instants that stamps name lie
between two that are known to the millisecond.
-/

namespace ContainerWatch

namespace Time.Date

variable {d : Date}

theorem monthLength_cases (y : Int) (m : Nat) :
    monthLength y m = 0 ∨ 1 ≤ m ∧ m ≤ 12 ∧ monthLength y m ≤ 31 := by
  fun_cases monthLength y m <;> simp

theorem bounds_of_isValid (valid : d.isValid = true) :
    1 ≤ d.month ∧ d.month ≤ 12 ∧ 1 ≤ d.day ∧ d.day ≤ 31 := by
  simp only [isValid, Bool.and_eq_true, decide_eq_true_eq] at valid
  rcases monthLength_cases d.year d.month with none_ | some_ <;> omega

theorem dayNumber_bounds (valid : d.isValid = true) (year_nonneg : 0 ≤ d.year)
    (year_le : d.year ≤ 9999) : -719528 ≤ d.dayNumber ∧ d.dayNumber ≤ 2932896 := by
  obtain ⟨january, december, first, last⟩ := bounds_of_isValid valid
  unfold dayNumber
  by_cases early : d.month ≤ 2
  · simp only [if_pos early]
    omega
  · simp only [if_neg early]
    omega

end Time.Date

namespace Rfc3339

open Decimal

variable {cs rest : List Char}

/-- The numbers of a time stamp. Second 60 is a leap second. -/
structure Stamp where
  date : Time.Date
  hour : Nat
  minute : Nat
  second : Nat
  nanos : Nat
  /-- How far its zone is ahead of universal time, in seconds. -/
  offset : Int
  year_nonneg : 0 ≤ date.year
  year_le : date.year ≤ 9999
  valid : date.isValid = true
  hour_lt : hour < 24
  minute_lt : minute < 60
  second_le : second ≤ 60
  nanos_lt : nanos < 1000000000
  offset_le : offset.natAbs ≤ 86340

namespace Stamp

def instant (s : Stamp) : Instant :=
  let leap := s.second = 60
  ⟨s.date.dayNumber * 86400 + s.hour * 3600 + s.minute * 60 + (if leap then 59 else s.second) -
    s.offset, s.nanos + if leap then 1000000000 else 0⟩

/-- The first stamp names the first moment of year 0 where the day begins first, the last one the
last millisecond of a leap second at the end of year 9999 where it ends last. -/
theorem millis_bounds (s : Stamp) :
    -62167305540000 ≤ s.instant.millis ∧ s.instant.millis ≤ 253402387140999 := by
  obtain ⟨low, high⟩ := Time.Date.dayNumber_bounds s.valid s.year_nonneg s.year_le
  have hour_lt := s.hour_lt
  have minute_lt := s.minute_lt
  have second_le := s.second_le
  have nanos_lt := s.nanos_lt
  have offset_le := s.offset_le
  by_cases leap : s.second = 60
  · simp only [Instant.millis, instant, if_pos leap]
    omega
  · simp only [Instant.millis, instant, if_neg leap]
    omega

end Stamp

/-! ### What is read is a stamp -/

theorem fraction?_lt {n : Nat} (h : fraction? cs = some (n, rest)) : n < 1000000000 := by
  unfold fraction? at h
  split at h
  · next ds =>
    obtain ⟨m, read, given⟩ := Option.bind_eq_some_iff.mp h
    split at given
    · cases given
    · obtain ⟨rfl, -⟩ := Prod.mk.inj (Option.some.inj given)
      refine (read?_lt read).trans_le ?_
      exact Nat.pow_le_pow_right (by decide) (List.length_take_le 9 _)
  · obtain ⟨rfl, -⟩ := Prod.mk.inj (Option.some.inj h)
    decide

def away? (sign : Int) (cs : List Char) : Option (Int × List Char) := do
  let (h, rest) ← takeDigits? 2 cs
  let rest ← expect? ':' rest
  let (m, rest) ← takeDigits? 2 rest
  if h < 24 ∧ m < 60 then some (sign * ((h : Int) * 3600 + m * 60), rest) else none

theorem zone?_cons (c : Char) (rest : List Char) :
    zone? (c :: rest) =
      if c = 'Z' ∨ c = 'z' then some (0, rest)
      else if c = '+' then away? 1 rest
      else if c = '-' ∨ c = '−' then away? (-1) rest
      else none := rfl

theorem away?_le {sign ahead : Int} (unit : sign.natAbs = 1)
    (h : away? sign cs = some (ahead, rest)) : ahead.natAbs ≤ 86340 := by
  obtain ⟨⟨hours, _⟩, -, h⟩ := Option.bind_eq_some_iff.mp h
  obtain ⟨_, -, h⟩ := Option.bind_eq_some_iff.mp h
  obtain ⟨⟨minutes, _⟩, -, h⟩ := Option.bind_eq_some_iff.mp h
  by_cases range : hours < 24 ∧ minutes < 60
  · obtain ⟨rfl, -⟩ := Prod.mk.inj (Option.some.inj ((if_pos range).symm.trans h))
    rw [Int.natAbs_mul, unit]
    omega
  · cases (if_neg range).symm.trans h

theorem zone?_le {ahead : Int} (h : zone? cs = some (ahead, rest)) : ahead.natAbs ≤ 86340 := by
  cases cs with
  | nil => cases h
  | cons c cs =>
    rw [zone?_cons] at h
    split at h
    · obtain ⟨rfl, -⟩ := Prod.mk.inj (Option.some.inj h)
      decide
    · split at h
      · exact away?_le rfl h
      · split at h
        · exact away?_le rfl h
        · cases h

theorem exists_stamp {t : Instant} (h : readList? cs = some t) : ∃ s : Stamp, s.instant = t := by
  obtain ⟨⟨year, _⟩, readYear, h⟩ := Option.bind_eq_some_iff.mp h
  obtain ⟨_, -, h⟩ := Option.bind_eq_some_iff.mp h
  obtain ⟨⟨month, _⟩, -, h⟩ := Option.bind_eq_some_iff.mp h
  obtain ⟨_, -, h⟩ := Option.bind_eq_some_iff.mp h
  obtain ⟨⟨day, _⟩, -, h⟩ := Option.bind_eq_some_iff.mp h
  obtain ⟨_, -, h⟩ := Option.bind_eq_some_iff.mp h
  obtain ⟨⟨hour, _⟩, -, h⟩ := Option.bind_eq_some_iff.mp h
  obtain ⟨_, -, h⟩ := Option.bind_eq_some_iff.mp h
  obtain ⟨⟨minute, _⟩, -, h⟩ := Option.bind_eq_some_iff.mp h
  obtain ⟨_, -, h⟩ := Option.bind_eq_some_iff.mp h
  obtain ⟨⟨second, _⟩, -, h⟩ := Option.bind_eq_some_iff.mp h
  obtain ⟨⟨nanos, _⟩, readFraction, h⟩ := Option.bind_eq_some_iff.mp h
  obtain ⟨⟨offset, rest⟩, readZone, h⟩ := Option.bind_eq_some_iff.mp h
  have year_lt : year < 10000 := takeDigits?_lt readYear
  let date : Time.Date := ⟨year, month, day⟩
  by_cases range : rest.isEmpty ∧ date.isValid ∧ hour < 24 ∧ minute < 60 ∧ second ≤ 60
  · have same := Option.some.inj ((if_pos range).symm.trans h)
    obtain ⟨-, valid, hour_lt, minute_lt, second_le⟩ := range
    have year_le : date.year ≤ 9999 := Int.ofNat_le.mpr (Nat.le_of_lt_succ year_lt)
    exact ⟨⟨date, hour, minute, second, nanos, offset, Int.natCast_nonneg year, year_le, valid,
      hour_lt, minute_lt, second_le, fraction?_lt readFraction, zone?_le readZone⟩, same⟩
  · cases (if_neg range).symm.trans h

theorem millis_bounds {t : Instant} (h : readList? cs = some t) :
    -62167305540000 ≤ t.millis ∧ t.millis ≤ 253402387140999 := by
  obtain ⟨s, rfl⟩ := exists_stamp h
  exact s.millis_bounds

example : (readList? "0000-01-01T00:00:00+23:59".toList).map Instant.millis =
      some (-62167305540000) ∧
    (readList? "9999-12-31T23:59:60.9999-23:59".toList).map Instant.millis =
      some 253402387140999 := by decide +kernel

end Rfc3339

end ContainerWatch
