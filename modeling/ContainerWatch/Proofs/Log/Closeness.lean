import ContainerWatch.Log.Line
import ContainerWatch.Proofs.Time.Stamp
import ContainerWatch.Proofs.Windows
import ContainerWatch.Proofs.Word

/-!
Closeness of records in words of 64 bits. Subtraction and absolute value overflow for some words,
and a window that is too large wraps to a negative one. The times of lines that are read and the
windows that files can set are so small that neither happens.
-/

namespace ContainerWatch.Log

variable {w : Nat}

namespace Entry

variable {a b : Entry} {window window' : Int}

/-- The comparison of `isCloseTo` as words carry it out; none if an operation overflows. -/
def isCloseTo64? (a b : Entry) (window : Int64) : Option Bool := do
  let difference ← Word.sub? (Int64.ofInt a.timestamp) (Int64.ofInt b.timestamp)
  let distance ← Word.abs? difference
  return distance < window

theorem isCloseTo_iff : a.isCloseTo b window = true ↔ |a.timestamp - b.timestamp| < window := by
  rw [isCloseTo, decide_eq_true_iff, Int.abs_eq_natAbs]

theorem isCloseTo_comm (a b : Entry) (window : Int) :
    b.isCloseTo a window = a.isCloseTo b window := by
  rw [Bool.eq_iff_iff, isCloseTo_iff, isCloseTo_iff, abs_sub_comm]

theorem isCloseTo_of_le (wider : window ≤ window') (near : a.isCloseTo b window = true) :
    a.isCloseTo b window' = true :=
  isCloseTo_iff.mpr ((isCloseTo_iff.mp near).trans_le wider)

/-- Words compare exactly if the times, their difference and its absolute value fit. -/
theorem isCloseTo64?_eq (left : Word.Holds a.timestamp) (right : Word.Holds b.timestamp)
    (difference : Word.Holds (a.timestamp - b.timestamp))
    (distance : Word.Holds |a.timestamp - b.timestamp|) (window : Int64) :
    a.isCloseTo64? b window = some (a.isCloseTo b window.toInt) := by
  have subtracted : Word.sub? (Int64.ofInt a.timestamp) (Int64.ofInt b.timestamp) =
      some (Int64.ofInt (a.timestamp - b.timestamp)) := by
    rw [Word.sub?_eq_some_iff, difference, left, right]
  have absolute : Word.abs? (Int64.ofInt (a.timestamp - b.timestamp)) =
      some (Int64.ofInt |a.timestamp - b.timestamp|) := by
    rw [Word.abs?_eq_some_iff, distance, difference]
  have compared : decide (Int64.ofInt |a.timestamp - b.timestamp| < window) =
      a.isCloseTo b window.toInt := by
    rw [Bool.eq_iff_iff, decide_eq_true_iff, Int64.lt_iff_toInt_lt, distance, isCloseTo_iff]
  rw [isCloseTo64?, subtracted, ← compared]
  simp only [Option.bind_eq_bind, Option.bind_some, absolute]
  rfl

end Entry

theorem Line.timestamp_bounds (raw : String) (stream : Stream) :
    -62167305540000 ≤ (Line.read raw stream).timestamp ∧
      (Line.read raw stream).timestamp ≤ 253402387140999 := by
  change _ ≤ (Line.readPlain raw stream).timestamp ∧ (Line.readPlain raw stream).timestamp ≤ _
  unfold Line.readPlain
  split
  · change -62167305540000 ≤ (0 : Int) ∧ (0 : Int) ≤ 253402387140999
    decide
  · next time payload parts =>
    obtain ⟨_, -, parts⟩ := Option.bind_eq_some_iff.mp parts
    obtain ⟨_, named, parts⟩ := Option.bind_eq_some_iff.mp parts
    obtain ⟨rfl, -⟩ := Prod.mk.inj (Option.some.inj parts)
    exact Rfc3339.millis_bounds named

/-- A window that a signed word can hold does not wrap. -/
theorem Group.windowOfWord_of_lt (small : w < 0x8000000000000000) :
    Group.windowOfWord w = w := by
  have size : ((UInt64.size : Nat) : Int) = 0x10000000000000000 := rfl
  refine Int.bmod_eq_of_le ?_ ?_
  · rw [size]
    omega
  · rw [size]
    omega

/-- For lines that are read and windows that files set, the times, the window and what is computed
from them fit their words, and the comparison is the one of numbers. It does not depend on the order
of the lines, and lines that are close in one window are close in every wider one. -/
theorem isCloseTo_exact (raw raw' : String) (stream stream' : Stream)
    (admitted : Settings.Admits w) :
    let a := Line.read raw stream
    let b := Line.read raw' stream'
    let window := Group.windowOfWord w
    (Word.Holds a.timestamp ∧ Word.Holds b.timestamp ∧ Word.Holds w ∧ window = w) ∧
    a.isCloseTo64? b (Int64.ofNat w) = some (a.isCloseTo b window) ∧
    (a.isCloseTo b window = true ↔ |a.timestamp - b.timestamp| < w) ∧
    b.isCloseTo a window = a.isCloseTo b window ∧
    ∀ v, Settings.Admits v → w ≤ v → a.isCloseTo b window = true →
      a.isCloseTo b (Group.windowOfWord v) = true := by
  intro a b window
  have small := Settings.admits_iff.mp admitted
  have unwrapped : window = w := Group.windowOfWord_of_lt small
  have held : Word.Holds w := Word.holds_iff.mpr (by omega)
  obtain ⟨low, high⟩ : -62167305540000 ≤ a.timestamp ∧ a.timestamp ≤ 253402387140999 :=
    Line.timestamp_bounds raw stream
  obtain ⟨low', high'⟩ : -62167305540000 ≤ b.timestamp ∧ b.timestamp ≤ 253402387140999 :=
    Line.timestamp_bounds raw' stream'
  have left : Word.Holds a.timestamp := Word.holds_iff.mpr (by omega)
  have right : Word.Holds b.timestamp := Word.holds_iff.mpr (by omega)
  have difference : Word.Holds (a.timestamp - b.timestamp) := Word.holds_iff.mpr (by omega)
  have distance : Word.Holds |a.timestamp - b.timestamp| := by
    rw [Word.holds_iff, Int.abs_eq_natAbs]
    omega
  refine ⟨⟨left, right, held, unwrapped⟩, ?_, ?_, Entry.isCloseTo_comm a b window, ?_⟩
  · have kept : (Int64.ofNat w).toInt = window := held.trans unwrapped.symm
    rw [Entry.isCloseTo64?_eq left right difference distance, kept]
  · rw [Entry.isCloseTo_iff, unwrapped]
  · intro v admitted' wider near
    have unwrapped' := Group.windowOfWord_of_lt (Settings.admits_iff.mp admitted')
    refine Entry.isCloseTo_of_le ?_ near
    rw [unwrapped, unwrapped']
    exact Int.ofNat_le.mpr wider

def earliest : String := "0000-01-01T00:00:00+23:59 x"

def latest : String := "9999-12-31T23:59:60.999999999-23:59 y"

def widest : String := "[logs]\ngroup_window_ms = 9223372036854775807\n"

theorem isCloseTo_exact_extreme :
    Settings.Admits 9223372036854775807 ∧
    (Line.read earliest .stdout).isCloseTo64? (Line.read latest .stderr)
      (Int64.ofNat 9223372036854775807) = some true := by
  have read : (Settings.read? widest).map (·.window) = some 9223372036854775807 := by
    decide +kernel
  obtain ⟨s, read, window⟩ := Option.map_eq_some_iff.mp read
  have admitted : Settings.Admits 9223372036854775807 := ⟨widest, s, read, window⟩
  have first : (Line.read earliest .stdout).timestamp = -62167305540000 := by decide +kernel
  have last : (Line.read latest .stderr).timestamp = 253402387140999 := by decide +kernel
  obtain ⟨-, computed, near, -⟩ := isCloseTo_exact earliest latest .stdout .stderr admitted
  refine ⟨admitted, computed.trans (congrArg some (near.mpr ?_))⟩
  rw [first, last]
  decide

end ContainerWatch.Log
