import ContainerWatch.Pattern.CharSet
import ContainerWatch.Text.Blank
import ContainerWatch.Unicode.Word

/-!
Search patterns. Of two ways to match, the first alternative comes first, and a repetition goes on
as long as it can if it is greedy, and stops as soon as it can if not.
-/

namespace ContainerWatch

/-- A place in a text: the byte offset, the character before it, and the text after it. -/
structure Cursor where
  offset : Nat := 0
  index : Nat := 0
  before : Option Char := none
  rest : List Char

namespace Cursor

def start (cs : List Char) : Cursor := { rest := cs }

def next? (c : Cursor) : Option (Char × Cursor) :=
  match c.rest with
  | [] => none
  | x :: rest => some (x, ⟨c.offset + x.utf8Size, c.index + 1, some x, rest⟩)

end Cursor

inductive Look
  | textStart | textEnd
  | lineStart (crlf : Bool) | lineEnd (crlf : Bool)
  | word (unicode : Bool) (bounds : List (Bool × Bool))
deriving DecidableEq, Repr

namespace Look

def inWord (unicode : Bool) (c : Char) : Bool :=
  if unicode then Unicode.isWord c else c.isAlphanum || c == '_'

def holds (l : Look) (c : Cursor) : Bool :=
  let after := c.rest.head?
  match l with
  | textStart => c.before.isNone
  | textEnd => after.isNone
  | lineStart false => c.before.isNone || c.before == some '\n'
  | lineEnd false => after.isNone || after == some '\n'
  | lineStart true =>
    c.before.isNone || c.before == some '\n' || (c.before == some '\r' && after != some '\n')
  | lineEnd true =>
    after.isNone || after == some '\r' || (after == some '\n' && c.before != some '\r')
  | word unicode bounds =>
    bounds.contains ((c.before.map (inWord unicode)).getD false,
      (after.map (inWord unicode)).getD false)

def boundary (unicode : Bool) : Look := word unicode [(true, false), (false, true)]

def noBoundary (unicode : Bool) : Look := word unicode [(true, true), (false, false)]

def wordStart (unicode : Bool) : Look := word unicode [(false, true)]

def wordEnd (unicode : Bool) : Look := word unicode [(true, false)]

def wordStartHalf (unicode : Bool) : Look := word unicode [(false, true), (false, false)]

def wordEndHalf (unicode : Bool) : Look := word unicode [(true, false), (false, false)]

end Look

inductive Pattern
  | empty
  | set (s : CharSet)
  | look (l : Look)
  | seq (p q : Pattern)
  | alt (p q : Pattern)
  | rep (p : Pattern) (least : Nat) (most : Option Nat) (greedy : Bool)
deriving Inhabited

namespace Pattern

def seqAll : List Pattern → Pattern
  | [] => empty
  | [p] => p
  | p :: rest => seq p (seqAll rest)

def altAll : List Pattern → Pattern
  | [] => empty
  | [p] => p
  | p :: rest => alt p (altAll rest)

def nullable : Pattern → Bool
  | empty => true
  | set _ => false
  | look _ => true
  | seq p q => p.nullable && q.nullable
  | alt p q => p.nullable || q.nullable
  | rep p least _ _ => least == 0 || p.nullable

end Pattern

end ContainerWatch
