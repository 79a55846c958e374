import ContainerWatch.Unicode.Fold
import ContainerWatch.Unicode.Ranges

/-!
Sets of characters, as ranges of code points in canonical form: sorted, and neither overlapping nor
touching. The surrogates may lie in a range; no character is one of them.
-/

namespace ContainerWatch

structure CharSet where
  ranges : Unicode.Ranges := #[]
deriving Inhabited

namespace CharSet

def top : Nat := 0x10FFFF

/-- Adds a range at the end of sorted ranges, merging it with the last if they meet. -/
def join (acc : Array (Nat × Nat)) (r : Nat × Nat) : Array (Nat × Nat) :=
  match acc.back? with
  | none => #[r]
  | some (a, b) => if r.1 ≤ b + 1 then acc.pop.push (a, max b r.2) else acc.push r

def ofRanges (rs : List (Nat × Nat)) : CharSet :=
  ⟨((rs.filter fun r => r.1 ≤ r.2).mergeSort fun a b => a.1 ≤ b.1).foldl join #[]⟩

def single (c : Char) : CharSet := ⟨#[(c.toNat, c.toNat)]⟩

def ofPoints (ns : List Nat) : CharSet := ofRanges (ns.map fun n => (n, n))

def all : CharSet := ⟨#[(0, top)]⟩

def contains (s : CharSet) (c : Char) : Bool := s.ranges.contains c.toNat

def union (s t : CharSet) : CharSet := ofRanges (s.ranges.toList ++ t.ranges.toList)

def gaps (next : Nat) : List (Nat × Nat) → List (Nat × Nat)
  | [] => if next ≤ top then [(next, top)] else []
  | (a, b) :: rest => if next < a then (next, a - 1) :: gaps (b + 1) rest else gaps (b + 1) rest

def compl (s : CharSet) : CharSet := ⟨(gaps 0 s.ranges.toList).toArray⟩

def inter (s t : CharSet) : CharSet := (s.compl.union t.compl).compl

def diff (s t : CharSet) : CharSet := s.inter t.compl

def symmDiff (s t : CharSet) : CharSet := (s.diff t).union (t.diff s)

def isEmpty (s : CharSet) : Bool := s.ranges.isEmpty

def isAscii (s : CharSet) : Bool := s.ranges.all fun r => r.2 < 128

/-- The elements of a run of case partners, least members only. -/
def bases (r : Unicode.FoldRun) : List Nat :=
  (List.range ((r.last - r.first) / r.stride + 1)).map fun i => r.first + i * r.stride

def fold (s : CharSet) : CharSet :=
  let runs := Unicode.foldRuns.toList
  let hit (n : Nat) : Bool := s.ranges.contains n
  let found := ofPoints (runs.flatMap fun r =>
    (bases r).filter fun n => hit n || hit (n + r.offset))
  let more := runs.flatMap fun r =>
    ((bases r).filter found.ranges.contains).flatMap fun n => [(n, n), (n + r.offset, n + r.offset)]
  ofRanges (s.ranges.toList ++ more)

def foldAscii (s : CharSet) : CharSet :=
  let letters := (List.range 26).flatMap fun i =>
    if s.ranges.contains (0x41 + i) || s.ranges.contains (0x61 + i) then
      [(0x41 + i, 0x41 + i), (0x61 + i, 0x61 + i)]
    else []
  ofRanges (s.ranges.toList ++ letters)

def caseless (c : Char) : CharSet := ofPoints (Unicode.foldClass c.toNat)

end CharSet

end ContainerWatch
