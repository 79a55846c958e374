/-!
White space as the Unicode property White_Space lists it, and trimming by it.
-/

namespace ContainerWatch.Text

/-- The property White_Space. -/
def isBlank (c : Char) : Bool :=
  let n := c.toNat
  (9 ≤ n && n ≤ 13) || n == 0x20 || n == 0x85 || n == 0xA0 || n == 0x1680 ||
    (0x2000 ≤ n && n ≤ 0x200A) || n == 0x2028 || n == 0x2029 || n == 0x202F || n == 0x205F ||
    n == 0x3000

def dropEndWhile {α : Type} (p : α → Bool) (cs : List α) : List α :=
  (cs.reverse.dropWhile p).reverse

def trim (s : String) : String :=
  String.ofList (dropEndWhile isBlank (s.toList.dropWhile isBlank))

def asciiLower (s : String) : String := String.ofList (s.toList.map Char.toLower)

def trimStart (c : Char) (s : String) : String := String.ofList (s.toList.dropWhile (· == c))

end ContainerWatch.Text
