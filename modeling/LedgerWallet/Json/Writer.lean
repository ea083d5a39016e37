import LedgerWallet.Decimal.Shortest
import LedgerWallet.Json.Basic
import LedgerWallet.Text.Numeral

namespace LedgerWallet.Json

def escapeChar (c : Char) : List Char :=
  if c = '"' then ['\\', '"']
  else if c = '\\' then ['\\', '\\']
  else if c = '\x08' then ['\\', 'b']
  else if c = '\x0c' then ['\\', 'f']
  else if c = '\n' then ['\\', 'n']
  else if c = '\r' then ['\\', 'r']
  else if c = '\t' then ['\\', 't']
  else if c.toNat < 0x20 then
    ['\\', 'u', '0', '0', Nat.digitChar (c.toNat / 16), Nat.digitChar (c.toNat % 16)]
  else [c]

def stringChars (s : String) : List Char :=
  '"' :: s.toList.flatMap escapeChar ++ ['"']

/-- Digits from the place `point` on are decimals. Scientific from `10 ^ 16` on and below
`10 ^ -5`. -/
def decimalChars (digits : List Char) (point : Int) : List Char :=
  let count : Int := digits.length
  let scientific :=
    (digits.take 1 ++ if count = 1 then [] else '.' :: digits.drop 1) ++ ['e'] ++
      (if 0 < point then '+' :: Numeral.chars (point - 1).toNat
       else '-' :: Numeral.chars (1 - point).toNat)
  if count ≤ point ∧ point ≤ 16 then
    digits ++ List.replicate (point - count).toNat '0' ++ ['.', '0']
  else if 0 < point ∧ point ≤ 16 then
    digits.take point.toNat ++ '.' :: digits.drop point.toNat
  else if -5 < point ∧ point ≤ 0 then
    '0' :: '.' :: List.replicate (-point).toNat '0' ++ digits
  else scientific

def floatChars (value : Float) : List Char :=
  let bits := value.toBits
  let sign := if bits.toNat < Nat.pow 2 63 then [] else ['-']
  let s := Decimal.shortest (Decimal.Binary.ofBits bits)
  if s.digits = 0 then sign ++ ['0', '.', '0']
  else
    let digits := Numeral.chars s.digits
    sign ++ decimalChars digits (digits.length + s.exponent)

def Number.chars : Number → List Char
  | natural n => Numeral.chars n
  | negative m => '-' :: Numeral.chars m
  | float value => floatChars value

mutual

def compactChars : Json → List Char
  | null => ['n', 'u', 'l', 'l']
  | bool true => ['t', 'r', 'u', 'e']
  | bool false => ['f', 'a', 'l', 's', 'e']
  | number n => n.chars
  | string s => stringChars s
  | array items => '[' :: compactItems items ++ [']']
  | object members => '{' :: compactMembers members ++ ['}']

def compactItems : List Json → List Char
  | [] => []
  | [item] => compactChars item
  | item :: rest => compactChars item ++ ',' :: compactItems rest

def compactMembers : List (String × Json) → List Char
  | [] => []
  | [(key, value)] => stringChars key ++ ':' :: compactChars value
  | (key, value) :: rest => stringChars key ++ ':' :: compactChars value ++ ',' :: compactMembers rest

end

def newLine (depth : Nat) : List Char :=
  '\n' :: List.replicate (2 * depth) ' '

mutual

def indentedChars (depth : Nat) : Json → List Char
  | null => compactChars null
  | bool b => compactChars (bool b)
  | number n => n.chars
  | string s => stringChars s
  | array [] => ['[', ']']
  | array items => '[' :: indentedItems (depth + 1) items ++ newLine depth ++ [']']
  | object [] => ['{', '}']
  | object members => '{' :: indentedMembers (depth + 1) members ++ newLine depth ++ ['}']

def indentedItems (depth : Nat) : List Json → List Char
  | [] => []
  | [item] => newLine depth ++ indentedChars depth item
  | item :: rest => newLine depth ++ indentedChars depth item ++ ',' :: indentedItems depth rest

def indentedMembers (depth : Nat) : List (String × Json) → List Char
  | [] => []
  | [(key, value)] => newLine depth ++ stringChars key ++ ':' :: ' ' :: indentedChars depth value
  | (key, value) :: rest =>
    newLine depth ++ stringChars key ++ ':' :: ' ' :: indentedChars depth value ++
      ',' :: indentedMembers depth rest

end

def compact (value : Json) : String :=
  String.ofList (compactChars value)

def indented (value : Json) : String :=
  String.ofList (indentedChars 0 value)

end LedgerWallet.Json
