import Mathlib.Algebra.Order.Group.Unbundled.Int

/-!
Signed words of 64 bits, and arithmetic on them that gives nothing where it overflows.
-/

namespace ContainerWatch.Word

def Holds (n : Int) : Prop := (Int64.ofInt n).toInt = n

theorem holds_iff {n : Int} : Holds n ↔ -0x8000000000000000 ≤ n ∧ n < 0x8000000000000000 := by
  constructor
  · intro held
    have low := (Int64.ofInt n).le_toInt
    have high := (Int64.ofInt n).toInt_lt
    rw [held] at low high
    exact ⟨low, high⟩
  · rintro ⟨low, high⟩
    exact Int64.toInt_ofInt_of_le low high

def sub? (x y : Int64) : Option Int64 :=
  if x.toBitVec.ssubOverflow y.toBitVec then none else some (x - y)

/-- The absolute value of a word, which the least word has none of. -/
def abs? (x : Int64) : Option Int64 := if x.toBitVec.negOverflow then none else some x.abs

theorem sub?_eq_some_iff {x y d : Int64} : sub? x y = some d ↔ d.toInt = x.toInt - y.toInt := by
  have overflow : x.toBitVec.ssubOverflow y.toBitVec = true ↔
      0x8000000000000000 ≤ x.toInt - y.toInt ∨ x.toInt - y.toInt < -0x8000000000000000 := by
    simp [BitVec.ssubOverflow]
  unfold sub?
  split
  · next large =>
    have low := d.le_toInt
    have high := d.toInt_lt
    rw [overflow] at large
    simp only [reduceCtorEq, false_iff]
    omega
  · next fits =>
    have exact_ : (x - y).toInt = x.toInt - y.toInt := BitVec.toInt_sub_of_not_ssubOverflow fits
    rw [Option.some.injEq, ← exact_, Int64.toInt_inj, eq_comm]

theorem abs?_eq_some_iff {x m : Int64} : abs? x = some m ↔ m.toInt = |x.toInt| := by
  have overflow : x.toBitVec.negOverflow = true ↔ x.toInt = -0x8000000000000000 := by
    simp [BitVec.negOverflow]
  unfold abs?
  split
  · next least =>
    have high := m.toInt_lt
    rw [overflow.mp least, Int.abs_eq_natAbs]
    simp only [reduceCtorEq, false_iff]
    omega
  · next fits =>
    have other : x.toBitVec ≠ BitVec.intMin 64 := by
      intro least
      refine fits (overflow.mpr ?_)
      rw [← Int64.toInt_toBitVec, least]
      rfl
    have exact_ : x.abs.toInt = |x.toInt| := by
      rw [Int.abs_eq_natAbs]
      exact BitVec.toInt_abs_eq_natAbs_of_ne_intMin other
    rw [Option.some.injEq, ← exact_, Int64.toInt_inj, eq_comm]

end ContainerWatch.Word
