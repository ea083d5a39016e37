import LedgerWallet.Crypto.Edwards
import LedgerWallet.Crypto.Sha2

namespace LedgerWallet

abbrev Seed := FixedBytes 32

abbrev PublicKey := FixedBytes 32

abbrev PrivateKey := FixedBytes 64

structure Signature where
  bytes : FixedBytes 64
  deriving DecidableEq

def PrivateKey.seed (key : PrivateKey) : Seed :=
  ⟨key.toList.take 32, by rw [List.length_take, key.length_toList]; rfl⟩

def PrivateKey.publicHalf (key : PrivateKey) : PublicKey :=
  ⟨key.toList.drop 32, by rw [List.length_drop, key.length_toList]⟩

namespace Ed25519

open Edwards

def number (bytes : ByteString) : Nat := ByteString.ofLittleEndian bytes

def factor (message : ByteString) : Nat :=
  number (sha512 message).toList % order

/-- The secret factor: the lower half of the hashed seed with its low three bits cleared and
bit 254 as its highest. -/
def secretFactor (seed : Seed) : Nat :=
  let low := number ((sha512 seed.toList).toList.take 32)
  Nat.pow 2 254 + low % Nat.pow 2 254 / 8 * 8

def publicKey (seed : Seed) : PublicKey :=
  (Point.base.scale (secretFactor seed)).encode

def sign (seed : Seed) (message : ByteString) : Signature :=
  let nonce := factor ((sha512 seed.toList).toList.drop 32 ++ message)
  let commitment := (Point.base.scale nonce).encode
  let challenge := factor (commitment.toList ++ (publicKey seed).toList ++ message)
  let response := (nonce + challenge * secretFactor seed) % order
  ⟨commitment.append (FixedBytes.littleEndian 32 response)⟩

/-- The response must be below the order, and the commitment must be the very bytes that the
response and the challenge give. -/
def verify (key : PublicKey) (message : ByteString) (signature : Signature) : Bool :=
  let commitment := signature.bytes.toList.take 32
  let response := number (signature.bytes.toList.drop 32)
  match Point.decode? key with
  | none => false
  | some point =>
    let challenge := factor (commitment ++ key.toList ++ message)
    let expected := (Point.base.scale response).add (point.neg.scale challenge)
    decide (response < order) && expected.encode.toList == commitment

end Ed25519

end LedgerWallet
