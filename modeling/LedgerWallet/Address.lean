import LedgerWallet.Bytes.Hex
import LedgerWallet.Crypto.Ed25519
import LedgerWallet.Text.Blank

namespace LedgerWallet

structure Address where
  bytes : FixedBytes 20
  deriving DecidableEq

namespace Address

def ofBytes (bytes : ByteString) : Address :=
  ⟨FixedBytes.suffix 20 bytes⟩

def ofPublicKey (key : PublicKey) : Address :=
  ofBytes key.toList

def text (address : Address) : String :=
  "0x" ++ Hex.encode address.bytes.toList

inductive ParseError where
  | notHex (error : Hex.DecodeError)
  | wrongLength (length : Nat)
  deriving DecidableEq

def ParseError.message : ParseError → String
  | .notHex error => "invalid address: " ++ error.message
  | .wrongLength length =>
    "invalid address: expected 20 or 32 bytes, got " ++ Numeral.write length

def digitsOf (text : String) : String :=
  let chars := Text.trimChars text.toList
  match Text.dropStart? ['0', 'x'] chars with
  | some rest => String.ofList rest
  | none =>
    match Text.dropStart? ['0', 'X'] chars with
    | some rest => String.ofList rest
    | none => String.ofList chars

def parse (text : String) : Except ParseError Address :=
  match Hex.decode (digitsOf text) with
  | .error error => .error (.notHex error)
  | .ok bytes =>
    if bytes.length = 20 ∨ bytes.length = 32 then .ok (ofBytes bytes)
    else .error (.wrongLength bytes.length)

end Address

end LedgerWallet
