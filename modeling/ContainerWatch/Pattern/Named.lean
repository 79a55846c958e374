import ContainerWatch.Pattern.CharSet
import ContainerWatch.Unicode.Category
import ContainerWatch.Unicode.Property
import ContainerWatch.Unicode.Script
import ContainerWatch.Unicode.Word

/-!
Character sets that patterns may call by name. In the names of Unicode properties case, blanks,
underscores, hyphens and a leading "is" do not matter.
-/

namespace ContainerWatch.CharSet

open Unicode

def ofCategories (cs : List Category) : CharSet :=
  ofRanges (cs.flatMap fun c => c.ranges.toList)

def unassigned : CharSet := (ofCategories Category.all).compl

def categoryGroups : List (List String × List Category) :=
  [(["lc", "casedletter"], [.lu, .ll, .lt]),
    (["l", "letter"], [.lu, .ll, .lt, .lm, .lo]),
    (["lu", "uppercaseletter"], [.lu]),
    (["ll", "lowercaseletter"], [.ll]),
    (["lt", "titlecaseletter"], [.lt]),
    (["lm", "modifierletter"], [.lm]),
    (["lo", "otherletter"], [.lo]),
    (["m", "mark", "combiningmark"], [.mn, .mc, .me]),
    (["mn", "nonspacingmark"], [.mn]),
    (["mc", "spacingmark"], [.mc]),
    (["me", "enclosingmark"], [.me]),
    (["n", "number"], [.nd, .nl, .no]),
    (["nd", "decimalnumber", "digit"], [.nd]),
    (["nl", "letternumber"], [.nl]),
    (["no", "othernumber"], [.no]),
    (["p", "punctuation", "punct"], [.pc, .pd, .ps, .pe, .pi, .pf, .po]),
    (["pc", "connectorpunctuation"], [.pc]),
    (["pd", "dashpunctuation"], [.pd]),
    (["ps", "openpunctuation"], [.ps]),
    (["pe", "closepunctuation"], [.pe]),
    (["pi", "initialpunctuation"], [.pi]),
    (["pf", "finalpunctuation"], [.pf]),
    (["po", "otherpunctuation"], [.po]),
    (["s", "symbol"], [.sm, .sc, .sk, .so]),
    (["sm", "mathsymbol"], [.sm]),
    (["sc", "currencysymbol"], [.sc]),
    (["sk", "modifiersymbol"], [.sk]),
    (["so", "othersymbol"], [.so]),
    (["z", "separator"], [.zs, .zl, .zp]),
    (["zs", "spaceseparator"], [.zs]),
    (["zl", "lineseparator"], [.zl]),
    (["zp", "paragraphseparator"], [.zp]),
    (["cc", "control", "cntrl"], [.cc]),
    (["cf", "format"], [.cf]),
    (["co", "privateuse"], [.co])]

def category? (name : String) : Option CharSet :=
  match name with
  | "any" => some all
  | "ascii" => some ⟨#[(0, 127)]⟩
  | "assigned" => some unassigned.compl
  | "cn" | "unassigned" => some unassigned
  | "c" | "other" => some ((ofCategories [.cc, .cf, .co]).union unassigned)
  | _ => (categoryGroups.find? fun g => g.1.contains name).map fun g => ofCategories g.2

def script? (name : String) : Option CharSet :=
  (Script.table.find? fun t => t.1 = name ∨ t.2.1 = name).map fun t => ⟨t.2.2⟩

def blanks : CharSet :=
  ⟨#[(0x9, 0xD), (0x20, 0x20), (0x85, 0x85), (0xA0, 0xA0), (0x1680, 0x1680), (0x2000, 0x200A),
    (0x2028, 0x2029), (0x202F, 0x202F), (0x205F, 0x205F), (0x3000, 0x3000)]⟩

def property? (name : String) : Option CharSet :=
  match name with
  | "alphabetic" | "alpha" => some ⟨Property.alphabetic⟩
  | "lowercase" | "lower" => some ⟨Property.lowercase⟩
  | "uppercase" | "upper" => some ⟨Property.uppercase⟩
  | "emoji" => some ⟨Property.emoji⟩
  | "ideographic" | "ideo" => some ⟨Property.ideographic⟩
  | "whitespace" | "wspace" | "space" => some blanks
  | "asciihexdigit" | "ahex" => some ⟨#[(0x30, 0x39), (0x41, 0x46), (0x61, 0x66)]⟩
  | "hexdigit" | "hex" =>
    some ⟨#[(0x30, 0x39), (0x41, 0x46), (0x61, 0x66), (0xFF10, 0xFF19), (0xFF21, 0xFF26),
      (0xFF41, 0xFF46)]⟩
  | _ => none

/-- A property's name without what does not matter in it. -/
def plainName (name : List Char) : String :=
  let (bare, is) := match name with
    | a :: b :: rest =>
      if a.toLower = 'i' ∧ b.toLower = 's' then (rest, true) else (name, false)
    | _ => (name, false)
  let kept := (bare.filter fun c => c.toNat < 128 && !(c == ' ' || c == '_' || c == '-')).map
    Char.toLower
  if is ∧ kept = ['c'] then "isc" else String.ofList kept

def named? (name : List Char) : Option CharSet :=
  let n := plainName name
  (property? n).or ((category? n).or (script? n))

def valued? (name value : List Char) : Option CharSet :=
  match plainName name with
  | "gc" | "generalcategory" => category? (plainName value)
  | "sc" | "script" | "scx" | "scriptextensions" => script? (plainName value)
  | _ => none

def posix? (name : String) : Option CharSet :=
  let ranges (rs : List (Nat × Nat)) : Option CharSet := some (ofRanges rs)
  match name with
  | "alnum" => ranges [(0x30, 0x39), (0x41, 0x5A), (0x61, 0x7A)]
  | "alpha" => ranges [(0x41, 0x5A), (0x61, 0x7A)]
  | "ascii" => ranges [(0, 0x7F)]
  | "blank" => ranges [(9, 9), (0x20, 0x20)]
  | "cntrl" => ranges [(0, 0x1F), (0x7F, 0x7F)]
  | "digit" => ranges [(0x30, 0x39)]
  | "graph" => ranges [(0x21, 0x7E)]
  | "lower" => ranges [(0x61, 0x7A)]
  | "print" => ranges [(0x20, 0x7E)]
  | "punct" => ranges [(0x21, 0x2F), (0x3A, 0x40), (0x5B, 0x60), (0x7B, 0x7E)]
  | "space" => ranges [(9, 13), (0x20, 0x20)]
  | "upper" => ranges [(0x41, 0x5A)]
  | "word" => ranges [(0x30, 0x39), (0x41, 0x5A), (0x5F, 0x5F), (0x61, 0x7A)]
  | "xdigit" => ranges [(0x30, 0x39), (0x41, 0x46), (0x61, 0x66)]
  | _ => none

def digitSet (unicode : Bool) : CharSet := if unicode then ⟨Unicode.digits⟩ else ⟨#[(0x30, 0x39)]⟩

def spaceSet (unicode : Bool) : CharSet :=
  if unicode then blanks else ⟨#[(9, 13), (0x20, 0x20)]⟩

def wordSet (unicode : Bool) : CharSet :=
  if unicode then ⟨Unicode.words⟩
  else ⟨#[(0x30, 0x39), (0x41, 0x5A), (0x5F, 0x5F), (0x61, 0x7A)]⟩

end ContainerWatch.CharSet
