import LedgerWallet.Account
import LedgerWallet.Amount

namespace LedgerWallet

abbrev TransactionId := FixedBytes 32

structure Transfer where
  nonce : Nonce
  amount : Amount
  recipient : Address
  gasLimit : Amount
  gasPrice : Amount
  deriving DecidableEq

structure SignedTransfer where
  transfer : Transfer
  signature : Signature
  deriving DecidableEq

def wordOfBytes (bytes : ByteString) : UInt64 :=
  UInt64.ofNat (ByteString.ofBigEndian bytes)

namespace Transfer

def wordBytes (word : UInt64) : ByteString :=
  ByteString.bigEndian 8 word.toNat

def encode (t : Transfer) : ByteString :=
  wordBytes t.nonce ++ wordBytes t.amount ++ t.recipient.bytes.toList ++
    wordBytes t.gasLimit ++ wordBytes t.gasPrice

def encodedLength : Nat := 52

theorem length_encode (t : Transfer) : t.encode.length = encodedLength := by
  simp [encode, wordBytes, encodedLength, t.recipient.bytes.length_toList]

def decode? (bytes : ByteString) : Option Transfer :=
  match FixedBytes.ofList? ((bytes.drop 16).take 20) with
  | none => none
  | some recipient =>
    if bytes.length = encodedLength then
      some {
        nonce := wordOfBytes (bytes.take 8)
        amount := wordOfBytes ((bytes.drop 8).take 8)
        recipient := ⟨recipient⟩
        gasLimit := wordOfBytes ((bytes.drop 36).take 8)
        gasPrice := wordOfBytes (bytes.drop 44) }
    else none

end Transfer

namespace SignedTransfer

def encode (s : SignedTransfer) : ByteString :=
  s.transfer.encode ++ s.signature.bytes.toList

def decode? (bytes : ByteString) : Option SignedTransfer :=
  match Transfer.decode? (bytes.take Transfer.encodedLength),
    FixedBytes.ofList? (bytes.drop Transfer.encodedLength) with
  | some transfer, some signature => some ⟨transfer, ⟨signature⟩⟩
  | _, _ => none

def id (s : SignedTransfer) : TransactionId :=
  sha256 s.encode

end SignedTransfer

def Account.signTransfer (account : Account) (transfer : Transfer) :
    Except Account.KeyMismatch SignedTransfer :=
  (account.sign transfer.encode).map fun signature => ⟨transfer, signature⟩

end LedgerWallet
