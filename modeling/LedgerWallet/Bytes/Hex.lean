import LedgerWallet.Bytes.Utf8
import LedgerWallet.Text.Numeral
import LedgerWallet.Text.Quoted

namespace LedgerWallet.Hex

inductive DecodeError where
  | oddLength
  | invalidCharacter (byte : UInt8) (position : Nat)
  deriving DecidableEq

/-- A byte that is no digit is named by the character with its number. -/
def DecodeError.message : DecodeError → String
  | .oddLength => "Odd number of digits"
  | .invalidCharacter byte position =>
    "Invalid character " ++ Text.quotedChar (Char.ofNat byte.toNat) ++ " at position " ++
      Numeral.write position

def digitValue? (c : Char) : Option Nat :=
  if '0' ≤ c ∧ c ≤ '9' then some (c.toNat - 48)
  else if 'a' ≤ c ∧ c ≤ 'f' then some (c.toNat - 87)
  else if 'A' ≤ c ∧ c ≤ 'F' then some (c.toNat - 55)
  else none

def encodeByte (byte : UInt8) : List Char :=
  [Nat.digitChar (byte.toNat / 16), Nat.digitChar (byte.toNat % 16)]

def encodeChars (bytes : ByteString) : List Char :=
  bytes.flatMap encodeByte

def encode (bytes : ByteString) : String :=
  String.ofList (encodeChars bytes)

def decodePairs : List Char → Nat → Except DecodeError ByteString
  | [], _ => .ok []
  | [c], position => .error (.invalidCharacter (Utf8.leadByte c) position)
  | high :: low :: rest, position =>
    match digitValue? high, digitValue? low with
    | none, _ => .error (.invalidCharacter (Utf8.leadByte high) position)
    | some _, none => .error (.invalidCharacter (Utf8.leadByte low) (position + 1))
    | some h, some l => (decodePairs rest (position + 2)).map (UInt8.ofNat (16 * h + l) :: ·)

/-- An odd number of bytes is reported before any character that is no digit. -/
def decode (text : String) : Except DecodeError ByteString :=
  if Utf8.size text.toList % 2 = 1 then .error .oddLength
  else decodePairs text.toList 0

def decodeFixed? (n : Nat) (text : String) : Option (FixedBytes n) :=
  match decode text with
  | .ok bytes => FixedBytes.ofList? bytes
  | .error _ => none

end LedgerWallet.Hex
