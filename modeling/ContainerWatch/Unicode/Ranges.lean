/-!
Sets of code points as sorted, separate ranges.
-/

namespace ContainerWatch.Unicode

/-- Ranges of code points, both ends included, in increasing order. -/
abbrev Ranges := Array (Nat × Nat)

namespace Ranges

def search (rs : Ranges) (n : Nat) : Nat → Nat → Nat → Bool
  | 0, _, _ => false
  | fuel + 1, lo, hi =>
    if lo < hi then
      let mid := (lo + hi) / 2
      match rs[mid]? with
      | none => false
      | some (a, b) =>
        if n < a then search rs n fuel lo mid
        else if b < n then search rs n fuel (mid + 1) hi
        else true
    else false

def contains (rs : Ranges) (n : Nat) : Bool := search rs n (rs.size + 1) 0 rs.size

end Ranges

end ContainerWatch.Unicode
