import LedgerWallet.Url.Domain.Basic
import LedgerWallet.Url.Percent

namespace LedgerWallet.Url

inductive Fault where
  | relative
  | emptyHost
  | badDomain
  | badHostCharacter
  | badPort
  | badIpv4
  | badIpv6
  deriving DecidableEq

def Fault.message : Fault → String
  | .relative => "relative URL without a base"
  | .emptyHost => "empty host"
  | .badDomain => "invalid international domain name"
  | .badHostCharacter => "invalid domain character"
  | .badPort => "invalid port number"
  | .badIpv4 => "invalid IPv4 address"
  | .badIpv6 => "invalid IPv6 address"

inductive Host where
  | domain (name : List Char)
  | ipv4 (number : Nat)
  | ipv6 (pieces : List Nat)
  deriving DecidableEq

def digitBelow? (base : Nat) (c : Char) : Option Nat :=
  (Hex.digitValue? c).filter (· < base)

def number? (base : Nat) (digits : List Char) : Option Nat := do
  let values ← digits.mapM (digitBelow? base)
  return values.foldl (fun n d => base * n + d) 0

/-- A part of a dotted number: hexadecimal behind `0x`, octal behind `0`, decimal otherwise. -/
def ipv4Part? : List Char → Option Nat
  | [] => none
  | '0' :: 'x' :: digits => number? 16 digits
  | '0' :: 'X' :: digits => number? 16 digits
  | '0' :: digit :: digits => number? 8 (digit :: digits)
  | digits => number? 10 digits

def dropFinalDot (labels : List (List Char)) : List (List Char) :=
  if labels.getLast? = some [] then labels.dropLast else labels

def endsInNumber (labels : List (List Char)) : Bool :=
  match (dropFinalDot labels).getLast? with
  | none | some [] => false
  | some last => last.all Char.isDigit || (ipv4Part? last).isSome

/-- Up to four parts, where the last one fills all the bytes that are left. -/
def readIpv4? (labels : List (List Char)) : Option Nat := do
  let parts ← (dropFinalDot labels).mapM ipv4Part?
  let last ← parts.getLast?
  let others := parts.dropLast
  guard (others.length < 4 ∧ last < Nat.pow 256 (4 - others.length) ∧ others.all (· < 256))
  return others.foldl (fun n part => 256 * n + part) 0 * Nat.pow 256 (4 - others.length) + last

def ipv4Text (number : Nat) : List Char :=
  let byte (k : Nat) : List Char := Numeral.chars (number / Nat.pow 256 k % 256)
  List.intercalate ['.'] [byte 3, byte 2, byte 1, byte 0]

def ipv6Group? (digits : List Char) : Option Nat := do
  guard (digits ≠ [] ∧ digits.length ≤ 4)
  number? 16 digits

def plainByte? (digits : List Char) : Option Nat := do
  guard (digits ≠ [] ∧ (digits.head? = some '0' → digits.length = 1))
  (number? 10 digits).filter (· < 256)

def dottedGroups? (chars : List Char) : Option (List Nat) := do
  match ← (Text.pieces (· = '.') chars).mapM plainByte? with
  | [a, b, c, d] => some [256 * a + b, 256 * c + d]
  | _ => none

def ipv6Groups? (isEnd : Bool) : List (List Char) → Option (List Nat)
  | [] => some []
  | [last] =>
    match ipv6Group? last with
    | some group => some [group]
    | none => if isEnd then dottedGroups? last else none
  | piece :: others => return (← ipv6Group? piece) :: (← ipv6Groups? isEnd others)

def groupsOf? (isEnd : Bool) (chars : List Char) : Option (List Nat) :=
  if chars = [] then some [] else ipv6Groups? isEnd (Text.pieces (· = ':') chars)

def cutAtGap? : List Char → Option (List Char × List Char)
  | ':' :: ':' :: rest => some ([], rest)
  | c :: rest => (cutAtGap? rest).map fun (front, behind) => (c :: front, behind)
  | [] => none

def readIpv6? (chars : List Char) : Option (List Nat) :=
  match cutAtGap? chars with
  | none => do
    let groups ← ipv6Groups? true (Text.pieces (· = ':') chars)
    guard (groups.length = 8)
    return groups
  | some (front, behind) => do
    let before ← groupsOf? false front
    let after ← groupsOf? true behind
    guard (before.length + after.length < 8)
    return before ++ List.replicate (8 - before.length - after.length) 0 ++ after

def longestZeros (groups : List Nat) : Nat × Nat :=
  (List.range groups.length).foldl (fun best start =>
    let length := ((groups.drop start).takeWhile (· = 0)).length
    if best.2 < length then (start, length) else best) (0, 0)

def groupsText (groups : List Nat) : List Char :=
  List.intercalate [':'] (groups.map (Nat.toDigits 16))

def ipv6Text (groups : List Nat) : List Char :=
  let (start, length) := longestZeros groups
  if length < 2 then groupsText groups
  else groupsText (groups.take start) ++ [':', ':'] ++ groupsText (groups.drop (start + length))

namespace Host

def text : Host → List Char
  | domain name => name
  | ipv4 number => ipv4Text number
  | ipv6 groups => ['['] ++ ipv6Text groups ++ [']']

def isForbidden (c : Char) : Bool :=
  c ≤ ' ' || c = '\x7f' || "#/:<>?@[\\]^|".toList.contains c

def readBracketed (chars : List Char) : Except Fault Host :=
  if chars.getLast? ≠ some ']' then .error .badIpv6
  else
    match readIpv6? chars.dropLast with
    | some groups => .ok (.ipv6 groups)
    | none => .error .badIpv6

def read (chars : List Char) : Except Fault Host :=
  match chars with
  | '[' :: rest => readBracketed rest
  | _ =>
    match (Utf8.decode? (Percent.decode chars)).bind fun text => Domain.read? text.toList with
    | none => .error .badDomain
    | some labels =>
      let name := List.intercalate ['.'] labels
      if name.any fun c => isForbidden c || c = '%' then .error .badDomain
      else if name = [] then .error .emptyHost
      else if endsInNumber labels then
        match readIpv4? labels with
        | some number => .ok (.ipv4 number)
        | none => .error .badIpv4
      else .ok (.domain name)

def readOpaque (chars : List Char) : Except Fault Host :=
  match chars with
  | '[' :: rest => readBracketed rest
  | _ =>
    if chars.any isForbidden then .error .badHostCharacter
    else .ok (.domain (Percent.encode [] chars))

end Host

end LedgerWallet.Url
