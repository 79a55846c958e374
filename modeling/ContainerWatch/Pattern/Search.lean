import ContainerWatch.Pattern.Program
import Std.Data.HashSet

/-!
Searching. From each place of the text in turn the branches of the program are tried in order of
preference; a pair of instruction and place that has failed once is not tried again, so a search
takes time in proportion to the program and the text.
-/

namespace ContainerWatch.Pattern

abbrev Tried := Std.HashSet (Nat × Nat)

/-- Tries the branches on the stack in order; `fuel` bounds the steps. -/
def explore (code : Code) : Nat → List (Nat × Cursor) → Tried → Option Cursor × Tried
  | 0, _, tried => (none, tried)
  | _, [], tried => (none, tried)
  | fuel + 1, (pc, c) :: stack, tried =>
    if tried.contains (pc, c.index) then explore code fuel stack tried
    else
      let tried := tried.insert (pc, c.index)
      match code[pc]? with
      | none => explore code fuel stack tried
      | some .accept => (some c, tried)
      | some (.take s next) =>
        match c.next? with
        | some (x, after) =>
          if s.contains x then explore code fuel ((next, after) :: stack) tried
          else explore code fuel stack tried
        | none => explore code fuel stack tried
      | some (.check l next) =>
        if l.holds c then explore code fuel ((next, c) :: stack) tried
        else explore code fuel stack tried
      | some (.choose a b) => explore code fuel ((a, c) :: (b, c) :: stack) tried

structure Match where
  first : Cursor
  last : Cursor

namespace Program

def fuel (p : Program) (c : Cursor) : Nat := 2 * (p.code.size + 1) * (c.rest.length + 2)

def searchFrom (p : Program) : Nat → Cursor → Tried → Option Match
  | 0, _, _ => none
  | n + 1, c, tried =>
    match explore p.code (p.fuel c) [(p.start, c)] tried with
    | (some last, _) => some ⟨c, last⟩
    | (none, tried) =>
      match c.next? with
      | some (_, after) => p.searchFrom n after tried
      | none => none

def find? (p : Program) (c : Cursor) : Option Match := p.searchFrom (c.rest.length + 1) c ∅

def isMatch (p : Program) (s : String) : Bool := (p.find? (Cursor.start s.toList)).isSome

/-- The matches from a place on, none of them empty at the end of the one before; `fuel` bounds
their number. -/
def matchesFrom (p : Program) : Nat → Cursor → Option Nat → List Match
  | 0, _, _ => []
  | fuel + 1, c, lastEnd =>
    match p.find? c with
    | none => []
    | some m =>
      if m.first.index = m.last.index ∧ lastEnd = some m.last.index then
        match c.next? with
        | some (_, after) => p.matchesFrom fuel after lastEnd
        | none => []
      else m :: p.matchesFrom fuel m.last (some m.last.index)

def ranges (p : Program) (s : String) : List (Nat × Nat) :=
  (p.matchesFrom (2 * s.length + 2) (Cursor.start s.toList) none).map fun m =>
    (m.first.offset, m.last.offset)

end Program

end ContainerWatch.Pattern
