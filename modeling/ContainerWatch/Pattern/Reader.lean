import ContainerWatch.Decimal.Digits
import ContainerWatch.Pattern.Named
import ContainerWatch.Pattern.Search
import ContainerWatch.Text.Cut

/-!
Reading patterns. The notation has no look-around and no back-references; classes and case follow
Unicode unless a flag restricts them to ASCII, and then nothing may match beyond ASCII that is not
written as a character.
-/

namespace ContainerWatch.Pattern

inductive Fault
  | unclosedGroup | unopenedGroup | nothingToRepeat | badCount | unclosedClass | badClass
  | badEscape | badFlags | badName | unsupported | unknownProperty | notText | tooDeep | tooLarge
deriving DecidableEq, Repr

structure Flags where
  caseless : Bool := false
  multiLine : Bool := false
  dotAll : Bool := false
  swapGreed : Bool := false
  unicode : Bool := true
  verbose : Bool := false
  crlf : Bool := false

/-- The text without blanks and comments, which run from a number sign to the end of the line. -/
def skipFrom : Bool → List Char → List Char
  | _, [] => []
  | true, c :: rest => skipFrom (c != '\n') rest
  | false, c :: rest =>
    if Text.isBlank c then skipFrom false rest
    else if c = '#' then skipFrom true rest
    else c :: rest

def Flags.skip (f : Flags) (cs : List Char) : List Char :=
  if f.verbose then skipFrom false cs else cs

/-! ### Escapes -/

inductive Atom
  | literal (c : Char) (byte : Bool)
  | cls (s : CharSet)
  | look (l : Look)

def isMeta (c : Char) : Bool := "\\.+*?()|[]\x7b\x7d^$#&-~".toList.contains c

/-- Whether a backslash may stand before a character that then means itself. -/
def isEscapable (c : Char) : Bool :=
  isMeta c || (c.toNat < 128 && !c.isAlphanum && c != '<' && c != '>')

def charOf (n : Nat) : Except Fault Char :=
  if n.isValidChar then .ok (Char.ofNat n) else .error .badEscape

/-- A character by `width` hexadecimal digits or by any number of them in braces. -/
def readHex (f : Flags) (width : Nat) (cs : List Char) : Except Fault (Atom × List Char) :=
  match f.skip cs with
  | '\x7b' :: rest =>
    match Text.cutList? '\x7d' rest with
    | none => .error .badEscape
    | some (ds, rest) =>
      match ds, Decimal.readBase? 16 Decimal.hexDigit? ds with
      | _ :: _, some n => (charOf n).map fun c => (.literal c false, rest)
      | _, _ => .error .badEscape
  | cs =>
    let ds := cs.take width
    match Decimal.readBase? 16 Decimal.hexDigit? ds with
    | some n =>
      if ds.length = width then (charOf n).map fun c => (.literal c (width == 2), cs.drop width)
      else .error .badEscape
    | none => .error .badEscape

def Flags.closed (f : Flags) (negated : Bool) (s : CharSet) : CharSet :=
  let s := if f.caseless then (if f.unicode then s.fold else s.foldAscii) else s
  if negated then s.compl else s

def propertySet (name : List Char) : Except Fault (CharSet × Bool) :=
  let result (s : Option CharSet) (negated : Bool) : Except Fault (CharSet × Bool) :=
    match s with
    | some s => .ok (s, negated)
    | none => .error .unknownProperty
  let bang := (List.range name.length).find? fun i => (name.drop i).take 2 == ['!', '=']
  match bang with
  | some i => result (CharSet.valued? (name.take i) (name.drop (i + 2))) true
  | none =>
    match (Text.cutList? ':' name).or (Text.cutList? '=' name) with
    | some (key, value) => result (CharSet.valued? key value) false
    | none => result (CharSet.named? name) false

def readProperty (f : Flags) (negated : Bool) (cs : List Char) :
    Except Fault (Atom × List Char) := do
  let (name, rest) ← match f.skip cs with
    | '\x7b' :: rest =>
      match Text.cutList? '\x7d' rest with
      | some (name, rest) => .ok (name, rest)
      | none => .error .badEscape
    | '\\' :: _ | [] => .error .badEscape
    | c :: rest => .ok ([c], rest)
  if ¬ f.unicode then .error .unsupported
  else
    let (s, other) ← propertySet name
    return (.cls (f.closed (negated != other) s), rest)

def shorthand (f : Flags) (negated : Bool) (s : CharSet) (rest : List Char) :
    Except Fault (Atom × List Char) :=
  if negated ∧ ¬ f.unicode then .error .notText
  else .ok (.cls (if negated then s.compl else s), rest)

def wordLook? (unicode : Bool) : String → Option Look
  | "start" => some (.wordStart unicode)
  | "end" => some (.wordEnd unicode)
  | "start-half" => some (.wordStartHalf unicode)
  | "end-half" => some (.wordEndHalf unicode)
  | _ => none

def isWordLookChar (c : Char) : Bool := c.isAlpha || c == '-'

/-- A word boundary, or a condition whose name follows in braces. What follows in braces may also be
the counts of a repetition. -/
def readBoundary (f : Flags) (cs : List Char) : Except Fault (Atom × List Char) :=
  let plain : Except Fault (Atom × List Char) := .ok (.look (.boundary f.unicode), cs)
  match cs with
  | '\x7b' :: rest =>
    match f.skip rest with
    | [] => .error .badEscape
    | c :: inner =>
      if ¬ isWordLookChar c then plain
      else
        let name := (c :: inner).takeWhile isWordLookChar
        match (c :: inner).dropWhile isWordLookChar, wordLook? f.unicode (String.ofList name) with
        | '\x7d' :: rest, some l => .ok (.look l, rest)
        | _, _ => .error .badEscape
  | _ => plain

def readEscape (f : Flags) : List Char → Except Fault (Atom × List Char)
  | [] => .error .badEscape
  | c :: rest =>
    if isEscapable c then .ok (.literal c false, rest)
    else match c with
      | 'x' => readHex f 2 rest
      | 'u' => readHex f 4 rest
      | 'U' => readHex f 8 rest
      | 'p' => readProperty f false rest
      | 'P' => readProperty f true rest
      | 'd' => shorthand f false (CharSet.digitSet f.unicode) rest
      | 'D' => shorthand f true (CharSet.digitSet f.unicode) rest
      | 's' => shorthand f false (CharSet.spaceSet f.unicode) rest
      | 'S' => shorthand f true (CharSet.spaceSet f.unicode) rest
      | 'w' => shorthand f false (CharSet.wordSet f.unicode) rest
      | 'W' => shorthand f true (CharSet.wordSet f.unicode) rest
      | 'a' => .ok (.literal '\x07' false, rest)
      | 'f' => .ok (.literal '\x0C' false, rest)
      | 't' => .ok (.literal '\t' false, rest)
      | 'n' => .ok (.literal '\n' false, rest)
      | 'r' => .ok (.literal '\r' false, rest)
      | 'v' => .ok (.literal '\x0B' false, rest)
      | 'A' => .ok (.look .textStart, rest)
      | 'z' => .ok (.look .textEnd, rest)
      | 'b' => readBoundary f rest
      | 'B' => .ok (.look (.noBoundary f.unicode), rest)
      | '<' => .ok (.look (.wordStart f.unicode), rest)
      | '>' => .ok (.look (.wordEnd f.unicode), rest)
      | _ => .error .badEscape

def literalSet (f : Flags) (c : Char) (byte : Bool) : Except Fault CharSet :=
  if f.unicode then .ok (if f.caseless then CharSet.caseless c else CharSet.single c)
  else if byte ∧ 128 ≤ c.toNat then .error .notText
  else if f.caseless then .ok (CharSet.single c).foldAscii
  else .ok (CharSet.single c)

def Atom.pattern (f : Flags) : Atom → Except Fault Pattern
  | literal c byte => (literalSet f c byte).map set
  | cls s => .ok (set s)
  | look l => .ok (.look l)

/-! ### Classes in brackets -/

inductive SetOp
  | inter | diff | symmDiff

def SetOp.join (f : Flags) : Option (SetOp × CharSet) → CharSet → CharSet
  | none, s => s
  | some (op, t), s =>
    let s := f.closed false s
    let t := f.closed false t
    match op with
    | inter => t.inter s
    | diff => t.diff s
    | symmDiff => t.symmDiff s

def setOp? : List Char → Option (SetOp × List Char)
  | '&' :: '&' :: rest => some (.inter, rest)
  | '-' :: '-' :: rest => some (.diff, rest)
  | '~' :: '~' :: rest => some (.symmDiff, rest)
  | _ => none

def posixClass? (f : Flags) : List Char → Option (CharSet × List Char)
  | ':' :: rest =>
    let (negated, rest) := match rest with
      | '^' :: rest => (true, rest)
      | _ => (false, rest)
    match Text.cutList? ':' rest with
    | some (name, ']' :: rest) =>
      (CharSet.posix? (String.ofList name)).map fun s => (f.closed negated s, rest)
    | _ => none
  | _ => none

def readMember (f : Flags) : List Char → Except Fault (Atom × List Char)
  | [] => .error .unclosedClass
  | '\\' :: rest => readEscape f rest
  | c :: rest => .ok (.literal c false, rest)

def Atom.memberSet (f : Flags) : Atom → Except Fault CharSet
  | literal c byte =>
    if f.unicode ∨ c.toNat < 128 then .ok (CharSet.single c)
    else if byte then .error .notText
    else .error .unsupported
  | cls s => .ok s
  | look _ => .error .badClass

def readRange (f : Flags) (cs : List Char) : Except Fault (CharSet × List Char) := do
  let (first, rest) ← readMember f cs
  let alone := fun (rest : List Char) => (first.memberSet f).map fun s => (s, rest)
  match f.skip rest with
  | [] => .error .unclosedClass
  | '-' :: more =>
    match f.skip more with
    | [] => .error .unclosedClass
    | ']' :: _ | '-' :: _ => alone ('-' :: more)
    | more =>
      let (second, rest) ← readMember f more
      match first, second with
      | .literal a _, .literal b _ =>
        let _ ← first.memberSet f
        let _ ← second.memberSet f
        if a ≤ b then .ok (CharSet.ofRanges [(a.toNat, b.toNat)], rest) else .error .badClass
      | _, _ => .error .badClass
  | rest => alone rest

def leadingHyphens (f : Flags) : Nat → CharSet → List Char → CharSet × List Char
  | 0, s, cs => (s, cs)
  | fuel + 1, s, cs =>
    match f.skip cs with
    | '-' :: rest => leadingHyphens f fuel (CharSet.single '-') rest
    | cs => (s, cs)

mutual

def readClass (f : Flags) : Nat → List Char → Except Fault (CharSet × List Char)
  | 0, _ => .error .unclosedClass
  | fuel + 1, cs => do
    let (negated, cs) := match f.skip cs with
      | '^' :: rest => (true, rest)
      | cs => (false, cs)
    let (s, cs) := leadingHyphens f cs.length {} cs
    let (s, cs) := match s.isEmpty, cs with
      | true, ']' :: rest => (CharSet.single ']', rest)
      | _, cs => (s, cs)
    let (s, rest) ← readMembers f fuel none s cs
    return (f.closed negated s, rest)

def readMembers (f : Flags) :
    Nat → Option (SetOp × CharSet) → CharSet → List Char → Except Fault (CharSet × List Char)
  | 0, _, _, _ => .error .unclosedClass
  | fuel + 1, before, s, cs =>
    match f.skip cs with
    | [] => .error .unclosedClass
    | ']' :: rest => .ok (SetOp.join f before s, rest)
    | '[' :: rest =>
      match posixClass? f rest with
      | some (t, rest) => readMembers f fuel before (s.union t) rest
      | none => do
        let (t, rest) ← readClass f fuel rest
        readMembers f fuel before (s.union t) rest
    | cs =>
      match setOp? cs with
      | some (op, rest) => readMembers f fuel (some (op, SetOp.join f before s)) {} rest
      | none => do
        let (t, rest) ← readRange f cs
        readMembers f fuel before (s.union t) rest

end

def readClassPattern (f : Flags) (cs : List Char) : Except Fault (Pattern × List Char) := do
  let (s, rest) ← readClass f (cs.length + 1) cs
  if ¬ f.unicode ∧ ¬ s.isAscii then .error .notText
  else return (set s, rest)

/-! ### Repetitions -/

def readCount (cs : List Char) : Except Fault ((Option Nat) × List Char) :=
  let cs := cs.dropWhile Text.isBlank
  let ds := cs.takeWhile Char.isDigit
  let rest := (cs.dropWhile Char.isDigit).dropWhile Text.isBlank
  match Decimal.read? ds with
  | none => .ok (none, rest)
  | some n => if n < UInt32.size then .ok (some n, rest) else .error .badCount

def readCounts (f : Flags) (cs : List Char) : Except Fault ((Nat × Option Nat) × List Char) := do
  let (first, rest) ← readCount (f.skip cs)
  let (counts, rest) ← (match first, rest with
    | some n, ',' :: rest =>
      match f.skip rest with
      | '\x7d' :: _ => Except.ok ((n, none), f.skip rest)
      | rest => do
        match ← readCount rest with
        | (some m, rest) => Except.ok ((n, some m), rest)
        | (none, _) => .error .badCount
    | some n, rest => Except.ok ((n, some n), rest)
    | none, _ => .error .badCount : Except Fault ((Nat × Option Nat) × List Char))
  match counts, rest with
  | (n, some m), '\x7d' :: rest => if n ≤ m then return ((n, some m), rest) else .error .badCount
  | (n, none), '\x7d' :: rest => return ((n, none), rest)
  | _, _ => .error .badCount

def readRepetition (f : Flags) : List Char → Except Fault ((Nat × Option Nat) × List Char)
  | '?' :: rest => .ok ((0, some 1), rest)
  | '*' :: rest => .ok ((0, none), rest)
  | '+' :: rest => .ok ((1, none), rest)
  | '\x7b' :: rest => (readCounts f rest).map fun r => (r.1, f.skip r.2)
  | _ => .error .badCount

/-! ### Groups -/

def Flags.with? (f : Flags) (on : Bool) : Char → Option Flags
  | 'i' => some { f with caseless := on }
  | 'm' => some { f with multiLine := on }
  | 's' => some { f with dotAll := on }
  | 'U' => some { f with swapGreed := on }
  | 'u' => some { f with unicode := on }
  | 'R' => some { f with crlf := on }
  | 'x' => some { f with verbose := on }
  | _ => none

/-- Applies flag letters, each at most once; those after a hyphen are cleared. -/
def Flags.applyAll (f : Flags) (on : Bool) (seen : List Char) : List Char → Except Fault Flags
  | [] => if seen.head? = some '-' then .error .badFlags else .ok f
  | c :: rest =>
    if seen.contains c then .error .badFlags
    else if c = '-' then f.applyAll false (c :: seen) rest
    else match f.with? on c with
      | some f => f.applyAll on (c :: seen) rest
      | none => .error .badFlags

def isNameChar (first : Bool) (c : Char) : Bool :=
  c == '_' || (Unicode.Property.alphabetic).contains c.toNat ||
    (!first && ((CharSet.ofCategories [.nd, .nl, .no]).contains c ||
      c == '.' || c == '[' || c == ']'))

def readName (names : List String) (cs : List Char) : Except Fault (String × List Char) :=
  match Text.cutList? '>' cs with
  | some (c :: name, rest) =>
    let s := String.ofList (c :: name)
    if isNameChar true c ∧ name.all (isNameChar false) ∧ ¬ names.contains s then .ok (s, rest)
    else .error .badName
  | _ => .error .badName

inductive Opening
  | group (flags : Flags) (name : Option String)
  | setting (flags : Flags)

def readOpening (f : Flags) (names : List String) (cs : List Char) :
    Except Fault (Opening × List Char) :=
  match f.skip cs with
  | '?' :: '=' :: _ | '?' :: '!' :: _ | '?' :: '<' :: '=' :: _ | '?' :: '<' :: '!' :: _ =>
    .error .unsupported
  | '?' :: 'P' :: '<' :: rest | '?' :: '<' :: rest =>
    (readName names rest).map fun r => (.group f (some r.1), r.2)
  | '?' :: rest => do
    let letters := rest.takeWhile fun c => c != ':' && c != ')'
    match rest.dropWhile fun c => c != ':' && c != ')' with
    | ':' :: rest => return (.group (← f.applyAll true [] letters) none, rest)
    | ')' :: rest =>
      if letters.isEmpty then .error .nothingToRepeat
      else return (.setting (← f.applyAll true [] letters), rest)
    | _ => .error .badFlags
  | cs => .ok (.group f none, cs)

def readSign (f : Flags) : List Char → Except Fault (Pattern × List Char)
  | [] => .error .badEscape
  | '.' :: rest =>
    if ¬ f.unicode then .error .notText
    else
      let lineEnds := if f.crlf then CharSet.ofPoints [10, 13] else CharSet.single '\n'
      .ok (set (if f.dotAll then CharSet.all else lineEnds.compl), rest)
  | '^' :: rest => .ok (look (if f.multiLine then .lineStart f.crlf else .textStart), rest)
  | '$' :: rest => .ok (look (if f.multiLine then .lineEnd f.crlf else .textEnd), rest)
  | '\\' :: rest => do
    let (atom, rest) ← readEscape f rest
    return (← atom.pattern f, rest)
  | c :: rest => (literalSet f c false).map fun s => (set s, rest)

/-- The parts read so far of the group that is open: whole alternatives, and the parts of the
current one in reverse. A part that only sets flags is none. -/
structure Open where
  flags : Flags
  names : List String
  alternatives : List Pattern := []
  parts : List (Option Pattern) := []

def Open.current (o : Open) : Pattern := seqAll (o.parts.reverse.filterMap id)

def Open.whole (o : Open) : Pattern := altAll (o.alternatives ++ [o.current])

def Open.add (o : Open) (p : Pattern) : Open := { o with parts := some p :: o.parts }

def nestLimit : Nat := 250

/-- Reads parts up to the end of the group or of the text; the result holds the names used. -/
def readParts : Nat → Nat → Open → List Char → Except Fault ((Pattern × List String) × List Char)
  | 0, _, _, _ => .error .tooDeep
  | fuel + 1, depth, o, cs =>
    let f := o.flags
    match f.skip cs with
    | [] => .ok ((o.whole, o.names), [])
    | ')' :: rest => .ok ((o.whole, o.names), ')' :: rest)
    | '|' :: rest =>
      readParts fuel depth
        { o with alternatives := o.alternatives ++ [o.current], parts := [] } rest
    | '(' :: rest => do
      match ← readOpening f o.names rest with
      | (.setting g, rest) =>
        readParts fuel depth { o with flags := g, parts := none :: o.parts } rest
      | (.group g name, rest) =>
        if depth = 0 then .error .tooDeep
        else
          let inner : Open := { flags := g, names := name.toList ++ o.names }
          match ← readParts fuel (depth - 1) inner rest with
          | ((p, names), ')' :: rest) => readParts fuel depth { o.add p with names } rest
          | _ => .error .unclosedGroup
    | '[' :: rest => do
      let (p, rest) ← readClassPattern f rest
      readParts fuel depth (o.add p) rest
    | c :: rest =>
      if c = '?' ∨ c = '*' ∨ c = '+' ∨ c = '\x7b' then
        match o.parts with
        | some p :: parts => do
          let ((least, most), rest) ← readRepetition f (c :: rest)
          let (lazy, rest) := match rest with
            | '?' :: rest => (true, rest)
            | _ => (false, rest)
          let greedy := lazy == f.swapGreed
          readParts fuel depth { o with parts := some (rep p least most greedy) :: parts } rest
        | _ => .error .nothingToRepeat
      else do
        let (p, rest) ← readSign f (c :: rest)
        readParts fuel depth (o.add p) rest

def read (caseless : Bool) (cs : List Char) : Except Fault Pattern := do
  match ← readParts (cs.length + 1) nestLimit { flags := { caseless }, names := [] } cs with
  | ((p, _), []) => if p.weight ≤ weightLimit then return p else .error .tooLarge
  | _ => .error .unopenedGroup

end ContainerWatch.Pattern
