import ContainerWatch.Decimal.Digits
import Mathlib.Algebra.Order.Ring.Nat
import Mathlib.Data.List.Induction

/-!
How large a number its digits make, and that the digits of a number make that number.
-/

namespace ContainerWatch.Decimal

variable {base : Nat} {value? : Char → Option Nat} {cs rest : List Char} {n : Nat}

theorem readBase?_append_singleton (cs : List Char) (c : Char) :
    readBase? base value? (cs ++ [c]) =
      (readBase? base value? cs).bind fun m => (value? c).map fun v => m * base + v := by
  simp only [readBase?, List.foldl_append, List.foldl_cons, List.foldl_nil]
  cases List.foldl _ (some 0) cs <;> cases value? c <;> rfl

/-! ### Bounds -/

theorem readBase?_lt (small : ∀ c v, value? c = some v → v < base)
    (read : readBase? base value? cs = some n) : n < base ^ cs.length := by
  -- From the last digit on, since that is the one read last.
  induction cs using List.reverseRecOn generalizing n with
  | nil =>
    obtain rfl := Option.some.inj read
    exact Nat.one_pos
  | append_singleton cs c ih =>
    rw [readBase?_append_singleton] at read
    obtain ⟨m, before, last⟩ := Option.bind_eq_some_iff.mp read
    obtain ⟨v, digit, rfl⟩ := Option.map_eq_some_iff.mp last
    rw [List.length_append, List.length_singleton, pow_succ]
    calc m * base + v < m * base + base := Nat.add_lt_add_left (small c v digit) _
      _ = (m + 1) * base := (Nat.succ_mul m base).symm
      _ ≤ base ^ cs.length * base := Nat.mul_le_mul_right base (ih before)

theorem digit?_lt (c : Char) (v : Nat) (h : digit? c = some v) : v < 10 := by
  unfold digit? at h
  split at h
  · next range =>
    have high : c.toNat ≤ 57 := range.2
    obtain rfl := Option.some.inj h
    change c.toNat - 48 < 10
    omega
  · simp at h

theorem read?_lt (h : read? cs = some n) : n < 10 ^ cs.length := by
  cases cs with
  | nil => simp [read?] at h
  | cons c cs => exact readBase?_lt digit?_lt h

theorem takeDigits?_lt {k : Nat} (h : takeDigits? k cs = some (n, rest)) : n < 10 ^ k := by
  by_cases long : (cs.take k).length = k
  · rw [takeDigits?, if_pos long] at h
    obtain ⟨m, read, same⟩ := Option.map_eq_some_iff.mp h
    obtain ⟨rfl, -⟩ := Prod.mk.inj same
    have bound := read?_lt read
    rwa [long] at bound
  · rw [takeDigits?, if_neg long] at h
    cases h

theorem rest_of_takeDigits? {k : Nat} (h : takeDigits? k cs = some (n, rest)) :
    rest = cs.drop k := by
  by_cases long : (cs.take k).length = k
  · rw [takeDigits?, if_pos long] at h
    obtain ⟨_, -, same⟩ := Option.map_eq_some_iff.mp h
    exact (Prod.mk.inj same).2.symm
  · rw [takeDigits?, if_neg long] at h
    cases h

/-! ### The digits of a number -/

theorem digits_eq (n : Nat) : digits n = Nat.toDigits 10 n := Nat.toList_repr

theorem digits_of_lt (h : n < 10) : digits n = [n.digitChar] := by
  rw [digits_eq, Nat.toDigits_of_lt_base h]

theorem digits_of_le (h : 10 ≤ n) : digits n = digits (n / 10) ++ [(n % 10).digitChar] := by
  rw [digits_eq, digits_eq, Nat.toDigits_of_base_le (by decide) h]

/-- Induction on the digits of a number, from the first one on. -/
theorem digits_induction {P : Nat → Prop} (one : ∀ n < 10, P n)
    (more : ∀ n, 10 ≤ n → P (n / 10) → P n) (n : Nat) : P n := by
  induction n using Nat.strong_induction_on with
  | _ n ih =>
    by_cases small : n < 10
    · exact one n small
    · exact more n (by omega) (ih (n / 10) (by omega))

theorem isDigit_of_mem_digits {c : Char} (h : c ∈ digits n) : c.isDigit = true := by
  rw [digits_eq] at h
  exact Nat.isDigit_of_mem_toDigits (by decide) (by decide) h

theorem digits_ne_nil (n : Nat) : digits n ≠ [] := by
  rw [digits_eq]
  exact Nat.toDigits_ne_nil

theorem digit?_digitChar (h : n < 10) : digit? n.digitChar = some n := by
  revert n
  decide

theorem readBase?_digits (n : Nat) : readBase? 10 digit? (digits n) = some n := by
  induction n using digits_induction with
  | one n small =>
    rw [digits_of_lt small, ← List.nil_append [_], readBase?_append_singleton,
      digit?_digitChar small]
    simp [readBase?]
  | more n large ih =>
    have whole : n / 10 * 10 + n % 10 = n := by omega
    rw [digits_of_le large, readBase?_append_singleton, ih, digit?_digitChar (by omega)]
    simp [whole]

theorem read?_digits (n : Nat) : read? (digits n) = some n := by
  obtain ⟨c, cs, some_⟩ := List.exists_cons_of_ne_nil (digits_ne_nil n)
  rw [← readBase?_digits n, some_]
  rfl

theorem eq_zero_of_digits (h : digits n = '0' :: rest) : n = 0 := by
  induction n using digits_induction generalizing rest with
  | one n small =>
    rw [digits_of_lt small] at h
    have first : n.digitChar = '0' := (List.cons.inj h).1
    have value := digit?_digitChar small
    rw [first] at value
    exact (Option.some.inj value).symm
  | more n large ih =>
    obtain ⟨c, cs, some_⟩ := List.exists_cons_of_ne_nil (digits_ne_nil (n / 10))
    rw [digits_of_le large, some_] at h
    obtain ⟨rfl, -⟩ := List.cons.inj h
    have none_ := ih some_
    omega

end ContainerWatch.Decimal
