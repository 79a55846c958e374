import ContainerWatch.Decimal.Digits
import ContainerWatch.Time.Calendar
import ContainerWatch.Toml.Basic

/-!
The values that TOML writes without brackets: strings in their four spellings, numbers, times and
truth values.
-/

namespace ContainerWatch.Toml

def isSpace (c : Char) : Bool := c == ' ' || c == '\t'

def skipSpace (cs : List Char) : List Char := cs.dropWhile isSpace

def newline? : List Char → Option (List Char)
  | '\n' :: rest => some rest
  | '\r' :: '\n' :: rest => some rest
  | _ => none

def isPlain (c : Char) : Bool := c == '\t' || (0x20 ≤ c.toNat && c.toNat ≠ 0x7F)

/-! ### Strings -/

def scalar? (n : Nat) (cs : List Char) : Option (Char × List Char) :=
  let ds := cs.take n
  if ds.length < n then none
  else (Decimal.readBase? 16 Decimal.hexDigit? ds).bind fun v =>
    if v < 0xD800 ∨ (0xE000 ≤ v ∧ v < 0x110000) then some (Char.ofNat v, cs.drop n) else none

def escape? : List Char → Option (Char × List Char)
  | 'b' :: rest => some ('\x08', rest)
  | 't' :: rest => some ('\t', rest)
  | 'n' :: rest => some ('\n', rest)
  | 'f' :: rest => some ('\x0C', rest)
  | 'r' :: rest => some ('\r', rest)
  | '"' :: rest => some ('"', rest)
  | '\\' :: rest => some ('\\', rest)
  | 'u' :: rest => scalar? 4 rest
  | 'U' :: rest => scalar? 8 rest
  | _ => none

/-- A string of one line up to its closing quote. Backslashes count only between double quotes. -/
def line? (quote : Char) : Nat → List Char → Option (List Char × List Char)
  | 0, _ => none
  | _, [] => none
  | fuel + 1, c :: rest =>
    if c = quote then some ([], rest)
    else if c = '\\' ∧ quote = '"' then do
      let (x, rest) ← escape? rest
      let (xs, rest) ← line? quote fuel rest
      return (x :: xs, rest)
    else if isPlain c then (line? quote fuel rest).map fun r => (c :: r.1, r.2)
    else none

def skipBreaks : List Char → List Char
  | '\n' :: rest => skipBreaks rest
  | '\r' :: '\n' :: rest => skipBreaks rest
  | c :: rest => if isSpace c then skipBreaks rest else c :: rest
  | [] => []

def continued? (cs : List Char) : Option (List Char) := (newline? (skipSpace cs)).map skipBreaks

/-- A string of several lines up to its three closing quotes, before which up to two more may
stand. -/
def block? (quote : Char) : Nat → List Char → Option (List Char × List Char)
  | 0, _ => none
  | _, [] => none
  | fuel + 1, c :: rest =>
    let again (xs : List Char) (rest : List Char) : Option (List Char × List Char) :=
      (block? quote fuel rest).map fun r => (xs ++ r.1, r.2)
    if c = quote then
      let run := ((c :: rest).takeWhile (· == quote)).length
      if run < 3 then again (List.replicate run quote) ((c :: rest).drop run)
      else
        let n := min run 5
        some (List.replicate (n - 3) quote, (c :: rest).drop n)
    else if c = '\\' ∧ quote = '"' then
      match continued? rest with
      | some rest => again [] rest
      | none =>
        match escape? rest with
        | some (x, rest) => again [x] rest
        | none => none
    else match newline? (c :: rest) with
      | some rest => again ['\n'] rest
      | none => if isPlain c then again [c] rest else none

def shortString? : List Char → Option (String × List Char)
  | c :: rest =>
    if c = '"' ∨ c = '\'' then
      (line? c rest.length.succ rest).map fun r => (String.ofList r.1, r.2)
    else none
  | [] => none

/-- A string in any spelling. A line end right after three opening quotes is dropped. -/
def string? (cs : List Char) : Option (String × List Char) :=
  match cs with
  | a :: b :: c :: rest =>
    if (a = '"' ∨ a = '\'') ∧ b = a ∧ c = a then
      let body := (newline? rest).getD rest
      (block? a body.length.succ body).map fun r => (String.ofList r.1, r.2)
    else shortString? cs
  | _ => shortString? cs

/-! ### Numbers -/

def digitRun (isDigit : Char → Bool) : List Char → List Char × List Char
  | [] => ([], [])
  | ['_'] => ([], ['_'])
  | '_' :: c :: rest =>
    if isDigit c then
      let more := digitRun isDigit rest
      (c :: more.1, more.2)
    else ([], '_' :: c :: rest)
  | c :: rest =>
    if isDigit c then
      let more := digitRun isDigit rest
      (c :: more.1, more.2)
    else ([], c :: rest)

def digits? (isDigit : Char → Bool) : List Char → Option (List Char × List Char)
  | [] => none
  | c :: rest => if isDigit c then some (digitRun isDigit (c :: rest)) else none

def whole? : List Char → Option (List Char × List Char)
  | '0' :: rest => some (['0'], rest)
  | cs => digits? Char.isDigit cs

def written (cs rest : List Char) : String := String.ofList (cs.take (cs.length - rest.length))

/-- A number without regard to its size: the value of an integer, or nothing for a float. -/
abbrev Numeral := Option Int

def exponent? (cs : List Char) : Option (Int × List Char) := do
  let (sign, cs) := match cs with
    | '-' :: rest => ((-1 : Int), rest)
    | '+' :: rest => (1, rest)
    | cs => (1, cs)
  let (ds, rest) ← digits? Char.isDigit cs
  return (sign * (← Decimal.read? ds), rest)

def exceedsDouble (n : Nat) (exponent : Int) : Bool :=
  let magnitude := exponent + (Decimal.digits n).length
  n ≠ 0 && (310 < magnitude ||
    (300 < magnitude && (Float.ofScientific n (exponent < 0) exponent.natAbs).isInf))

def fraction? : List Char → Option (List Char × List Char)
  | '.' :: rest => digits? Char.isDigit rest
  | rest => some ([], rest)

/-- The rest of a number after the digits before its point. Too large a float is refused, unless it
is negative. -/
def numberTail? (negative : Bool) (ds rest : List Char) : Option (Numeral × List Char) := do
  let (fs, afterFraction) ← fraction? rest
  let n ← Decimal.read? (ds ++ fs)
  let float (exponent : Int) (rest : List Char) : Option (Numeral × List Char) :=
    if !negative && exceedsDouble n (exponent - fs.length) then none else some (none, rest)
  match afterFraction with
  | 'e' :: more | 'E' :: more =>
    let (e, rest) ← exponent? more
    float e rest
  | _ =>
    if fs.isEmpty then return (some (if negative then -(n : Int) else n), rest)
    else float 0 afterFraction

def based? (base : Nat) (cs : List Char) : Option (Numeral × List Char) := do
  let value? (c : Char) : Option Nat := (Decimal.hexDigit? c).filter (· < base)
  let (ds, rest) ← digits? (fun c => (value? c).isSome) cs
  let n ← Decimal.readBase? base value? ds
  return (some (n : Int), rest)

def unsigned? (negative : Bool) : List Char → Option (Numeral × List Char)
  | 'i' :: 'n' :: 'f' :: rest => some (none, rest)
  | 'n' :: 'a' :: 'n' :: rest => some (none, rest)
  | cs => (whole? cs).bind fun (ds, rest) => numberTail? negative ds rest

def numeral? : List Char → Option (Numeral × List Char)
  | '+' :: rest => unsigned? false rest
  | '-' :: rest => unsigned? true rest
  | '0' :: 'x' :: rest => based? 16 rest
  | '0' :: 'o' :: rest => based? 8 rest
  | '0' :: 'b' :: rest => based? 2 rest
  | cs => unsigned? false cs

/-- A number; integers have 64 bits. -/
def number? (cs : List Char) : Option (Toml × List Char) :=
  match numeral? cs with
  | some (some n, rest) =>
    if -0x8000000000000000 ≤ n ∧ n < 0x8000000000000000 then some (int n, rest) else none
  | some (none, rest) => some (float (written cs rest), rest)
  | none => none

/-! ### Times -/

def after? (c : Char) : List Char → Option (List Char)
  | x :: rest => if x = c then some rest else none
  | [] => none

def afterDay? (cs : List Char) : Option (List Char) := do
  let (year, cs) ← Decimal.takeDigits? 4 cs
  let (month, cs) ← Decimal.takeDigits? 2 (← after? '-' cs)
  let (day, cs) ← Decimal.takeDigits? 2 (← after? '-' cs)
  if Time.Date.isValid ⟨year, month, day⟩ then some cs else none

def afterClock? (cs : List Char) : Option (List Char) := do
  let (hour, cs) ← Decimal.takeDigits? 2 cs
  let (minute, cs) ← Decimal.takeDigits? 2 (← after? ':' cs)
  let (second, cs) ← Decimal.takeDigits? 2 (← after? ':' cs)
  if 24 ≤ hour ∨ 60 ≤ minute ∨ 60 < second then none
  match cs with
  | '.' :: c :: rest => if c.isDigit then some (rest.dropWhile Char.isDigit) else some cs
  | cs => some cs

def afterZone? : List Char → Option (List Char)
  | [] => none
  | c :: rest =>
    if c = 'Z' ∨ c = 'z' then some rest
    else if c = '+' ∨ c = '-' then do
      let (hour, cs) ← Decimal.takeDigits? 2 rest
      let (minute, cs) ← Decimal.takeDigits? 2 (← after? ':' cs)
      if hour < 24 ∧ minute < 60 then some cs else none
    else none

def afterMoment? (cs : List Char) : Option (List Char) := do
  let rest ← afterDay? cs
  match rest with
  | c :: more =>
    if c = 'T' ∨ c = 't' ∨ c = ' ' then
      match afterClock? more with
      | some rest => some ((afterZone? rest).getD rest)
      | none => some rest
    else some rest
  | [] => some rest

def time? (cs : List Char) : Option (Toml × List Char) :=
  ((afterMoment? cs).or (afterClock? cs)).map fun rest => (time (written cs rest), rest)

def word? (w : String) (value : Toml) (cs : List Char) : Option (Toml × List Char) :=
  (w.toList.isPrefixOf? cs).map fun rest => (value, rest)

def scalarValue? (cs : List Char) : Option (Toml × List Char) :=
  match cs with
  | [] => none
  | c :: _ =>
    if c = '"' ∨ c = '\'' then (string? cs).map fun r => (string r.1, r.2)
    else if c = 't' then word? "true" (bool true) cs
    else if c = 'f' then word? "false" (bool false) cs
    else (time? cs).or (number? cs)

end ContainerWatch.Toml
