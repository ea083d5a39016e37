import LedgerWallet.Address

namespace LedgerWallet

structure Account where
  name : String
  publicKey : PublicKey
  privateKey : PrivateKey
  deriving DecidableEq

namespace Account

structure KeyMismatch where
  name : String
  deriving DecidableEq

def KeyMismatch.message (error : KeyMismatch) : String :=
  "private key of `" ++ error.name ++ "` does not match its public key"

def generate (seed : Seed) (name : String) : Account :=
  let publicKey := Ed25519.publicKey seed
  ⟨name, publicKey, seed.append publicKey⟩

def Paired (account : Account) : Prop :=
  Ed25519.publicKey account.privateKey.seed = account.publicKey ∧
    account.privateKey.publicHalf = account.publicKey

instance (account : Account) : Decidable account.Paired :=
  inferInstanceAs (Decidable (_ ∧ _))

def ofKeys (name : String) (publicKey : PublicKey) (privateKey : PrivateKey) :
    Except KeyMismatch Account :=
  let account : Account := ⟨name, publicKey, privateKey⟩
  if account.Paired then .ok account else .error ⟨name⟩

def address (account : Account) : Address :=
  Address.ofPublicKey account.publicKey

def sign (account : Account) (message : ByteString) : Except KeyMismatch Signature :=
  if account.Paired then .ok (Ed25519.sign account.privateKey.seed message)
  else .error ⟨account.name⟩

def describe (account : Account) : String :=
  "Account \x7b alias: " ++ Text.quoted account.name ++ ", public_key: " ++
    Text.quoted (Hex.encode account.publicKey.toList) ++ ", .. \x7d"

end Account

def Signature.describe (signature : Signature) : String :=
  "Signature(" ++ Hex.encode signature.bytes.toList ++ ")"

end LedgerWallet
