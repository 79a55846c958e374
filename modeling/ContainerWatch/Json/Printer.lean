import ContainerWatch.Json.Basic
import ContainerWatch.Decimal.Shortest

/-!
Compact JSON text: no blanks, keys in their order, and only quotes, backslashes and control
characters escaped.
-/

namespace ContainerWatch.Json

def escapeChar (c : Char) : List Char :=
  if c = '"' then ['\\', '"']
  else if c = '\\' then ['\\', '\\']
  else if c.toNat < 0x20 then
    match c.toNat with
    | 8 => ['\\', 'b']
    | 9 => ['\\', 't']
    | 10 => ['\\', 'n']
    | 12 => ['\\', 'f']
    | 13 => ['\\', 'r']
    | n => ['\\', 'u', '0', '0', Decimal.hexDigit (n / 16), Decimal.hexDigit (n % 16)]
  else [c]

def quote (s : String) : List Char := '"' :: s.toList.flatMap escapeChar ++ ['"']

def commas : List (List Char) → List Char
  | [] => []
  | [x] => x
  | x :: rest => x ++ ',' :: commas rest

mutual

def render : Json → List Char
  | null => "null".toList
  | bool true => "true".toList
  | bool false => "false".toList
  | int n => (toString n).toList
  | real x => (Decimal.realText x).getD "null".toList
  | string s => quote s
  | array items => '[' :: commas (renderItems items) ++ [']']
  | object fields => '{' :: commas (renderFields fields) ++ ['}']

def renderItems : List Json → List (List Char)
  | [] => []
  | x :: rest => render x :: renderItems rest

def renderFields : List (String × Json) → List (List Char)
  | [] => []
  | (k, v) :: rest => (quote k ++ ':' :: render v) :: renderFields rest

end

def print (j : Json) : String := String.ofList (render j)

end ContainerWatch.Json
