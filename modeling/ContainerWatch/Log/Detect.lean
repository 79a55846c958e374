import ContainerWatch.Log.Entry
import ContainerWatch.Text.Cut
import ContainerWatch.Unicode.Digit

/-!
Guessing the severity of a line. Terminal escape sequences are taken out and a date at the start is
skipped; then the severities are tried in order: a name at the start before a character that is no
letter, a name in brackets, a name in capitals in double quotes or between blanks. A line of fields
says its severity under a key of its own.
-/

namespace ContainerWatch.Log.Detect

/-! ### Terminal escape sequences -/

def escape : Char := '\x1b'

/-- Whether a character may stand between the bracket and the final letter of a sequence. -/
def isParameter (c : Char) : Bool := c.isDigit || c == ';' || c == '?'

def sequenceLength? : List Char → Option Nat
  | '[' :: rest =>
    match rest.dropWhile isParameter with
    | c :: _ => if c.isAlpha then some ((rest.takeWhile isParameter).length + 2) else none
    | [] => none
  | _ => none

/-- The text without its escape sequences, after leaving out `skip` characters. -/
def stripFrom : Nat → List Char → List Char
  | _, [] => []
  | skip + 1, _ :: rest => stripFrom skip rest
  | 0, c :: rest =>
    match if c = escape then sequenceLength? rest else none with
    | some n => stripFrom n rest
    | none => c :: stripFrom 0 rest

def strip (cs : List Char) : List Char := stripFrom 0 cs

/-! ### A date at the start -/

/-- What follows a character of the given kind. -/
def one? (p : Char → Bool) : List Char → Option (List Char)
  | c :: rest => if p c then some rest else none
  | [] => none

def digits? : Nat → List Char → Option (List Char)
  | 0, cs => some cs
  | n + 1, cs => one? Unicode.isDigit cs >>= digits? n

def oneOf? (choice : List Char) : List Char → Option (List Char) := one? choice.contains

def blanks? (cs : List Char) : Option (List Char) :=
  (one? Text.isBlank cs).map (·.dropWhile Text.isBlank)

def day? (cs : List Char) : Option (List Char) :=
  digits? 4 cs >>= oneOf? ['-', '/'] >>= digits? 2 >>= oneOf? ['-', '/'] >>= digits? 2

def afterFraction (cs : List Char) : List Char :=
  match oneOf? ['.', ','] cs >>= one? Unicode.isDigit with
  | some rest => rest.dropWhile Unicode.isDigit
  | none => cs

def afterZone (cs : List Char) : List Char :=
  match oneOf? ['Z'] cs with
  | some rest => rest
  | none =>
    match oneOf? ['+', '-'] cs >>= digits? 2 with
    | some rest =>
      match digits? 2 ((oneOf? [':'] rest).getD rest) with
      | some rest => rest
      | none => cs
    | none => cs

def clock24? (cs : List Char) : Option (List Char) :=
  (digits? 2 cs >>= oneOf? [':'] >>= digits? 2 >>= oneOf? [':'] >>= digits? 2).map
    fun rest => afterZone (afterFraction rest)

def clock12? (cs : List Char) : Option (List Char) := do
  let rest ← one? Unicode.isDigit cs
  let rest := (one? Unicode.isDigit rest).getD rest
  let rest ← oneOf? [':'] rest >>= digits? 2
  let rest := (one? Text.isBlank rest).getD rest
  oneOf? ['A', 'P'] rest >>= oneOf? ['M']

def date? (cs : List Char) : Option (List Char) := do
  let rest ← day? cs
  let time := oneOf? ['T', ' '] rest
  (time >>= clock24? >>= blanks?) <|> (time >>= clock12? >>= blanks?) <|> blanks? rest

def dropDate (cs : List Char) : List Char := (date? cs).getD cs

/-! ### The forms of a severity -/

/-- The lower-case letter a to z that a character is in some case, or the character itself. The long
s and the Kelvin sign are the only others that differ from such a letter in case only. -/
def plain (c : Char) : Char :=
  if c = 'ſ' then 's' else if c = '\u212A' then 'k' else c.toLower

def isLetter (c : Char) : Bool := (plain c).isLower

def caseless? : List Char → List Char → Option (List Char)
  | [], cs => some cs
  | _ :: _, [] => none
  | w :: ws, c :: cs => if plain c = w then caseless? ws cs else none

def opens (word cs : List Char) : Bool :=
  match caseless? word cs with
  | some (c :: _) => !isLetter c
  | _ => false

def afterSpace : List Char → List Char
  | ' ' :: rest => rest
  | cs => cs

def startsBracketed (word : List Char) : List Char → Bool
  | '[' :: rest =>
    match caseless? word (afterSpace rest) with
    | some rest => (afterSpace rest).head? == some ']'
    | none => false
  | _ => false

def anyTail (p : List Char → Bool) : List Char → Bool
  | [] => p []
  | c :: rest => p (c :: rest) || anyTail p rest

/-- Whether the word stands in capitals in double quotes or between blanks. -/
def shouts (word cs : List Char) : Bool :=
  let upper := word.map Char.toUpper
  Text.occursIn ('"' :: upper ++ ['"']) cs || Text.occursIn (' ' :: upper ++ [' ']) cs

def shows (l : Severity) (cs : List Char) : Bool :=
  l.aliases.any fun a =>
    opens a.toList cs || anyTail (startsBracketed a.toList) cs || shouts a.toList cs

def ofText (cs : List Char) : Severity :=
  let line := dropDate (strip cs)
  (Severity.known.find? (shows · line)).getD .unknown

/-- The keys that may hold the severity of a line of fields, the first with a text counts. -/
def keys : List String := ["level", "severity"]

def ofMessage : Message → Severity
  | .text s => ofText s.toList
  | .fields fs =>
    match keys.findSome? fun k => (fs.get? k).bind Json.string? with
    | some s => Severity.ofAlias (String.ofList (strip s.toList))
    | none => .unknown

end ContainerWatch.Log.Detect
