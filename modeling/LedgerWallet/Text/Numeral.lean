namespace LedgerWallet.Numeral

inductive ReadError where
  | empty
  | invalidDigit
  | tooLarge
  deriving DecidableEq

def ReadError.message : ReadError → String
  | .empty => "cannot parse integer from empty string"
  | .invalidDigit => "invalid digit found in string"
  | .tooLarge => "number too large to fit in target type"

def digitValue? (c : Char) : Option Nat :=
  if '0' ≤ c ∧ c ≤ '9' then some (c.toNat - 48) else none

/-- Reads on from the value of the digits so far. The first offence decides the error. -/
def readDigits (bound : Nat) : List Char → Nat → Except ReadError Nat
  | [], value => .ok value
  | c :: rest, value =>
    match digitValue? c with
    | none => .error .invalidDigit
    | some d =>
      if 10 * value + d < bound then readDigits bound rest (10 * value + d)
      else .error .tooLarge

def readChars (bound : Nat) : List Char → Except ReadError Nat
  | [] => .error .empty
  | ['+'] => .error .invalidDigit
  | '+' :: rest => readDigits bound rest 0
  | chars => readDigits bound chars 0

def read (bound : Nat) (text : String) : Except ReadError Nat :=
  readChars bound text.toList

def readWord (text : String) : Except ReadError UInt64 :=
  (read (Nat.pow 2 64) text).map UInt64.ofNat

def chars (n : Nat) : List Char :=
  Nat.toDigits 10 n

def write (n : Nat) : String :=
  String.ofList (chars n)

def writePadded (width n : Nat) : String :=
  String.ofList (List.replicate (width - (chars n).length) '0' ++ chars n)

end LedgerWallet.Numeral
