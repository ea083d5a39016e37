import LedgerWallet.Files.Tree
import LedgerWallet.Json.Record
import LedgerWallet.Store.Basic

namespace LedgerWallet

structure StoredAccount where
  name : String
  publicKey : String
  privateKey : String
  deriving DecidableEq

namespace StoredAccount

structure Draft where
  name : Option String
  publicKey : Option String
  privateKey : Option String

def record : Json.Record Draft StoredAccount where
  kind := "AccountRecord"
  members := [
    .ofShape "alias" (.text "a string") Draft.name fun v d => { d with name := some v },
    .ofShape "public_key" (.text "a string") Draft.publicKey
      fun v d => { d with publicKey := some v },
    .ofShape "private_key" (.text "a string") Draft.privateKey
      fun v d => { d with privateKey := some v }]
  blank := ⟨none, none, none⟩
  complete draft := do
    let name ← Json.required "alias" draft.name
    let publicKey ← Json.required "public_key" draft.publicKey
    let privateKey ← Json.required "private_key" draft.privateKey
    return ⟨name, publicKey, privateKey⟩

def toJson (stored : StoredAccount) : Json :=
  .object [("alias", .string stored.name), ("public_key", .string stored.publicKey),
    ("private_key", .string stored.privateKey)]

def ofAccount (account : Account) : StoredAccount :=
  ⟨account.name, Hex.encode account.publicKey.toList, Hex.encode account.privateKey.toList⟩

def decodeKey? (n : Nat) (text : String) : Option (FixedBytes n) :=
  Hex.decodeFixed? n (Text.dropHexMark text)

def toAccount (stored : StoredAccount) : Except Defect Account :=
  match decodeKey? 32 stored.publicKey with
  | none => .error (.badPublicKey stored.name)
  | some publicKey =>
    match decodeKey? 64 stored.privateKey with
    | none => .error (.badPrivateKey stored.name)
    | some privateKey =>
      (Account.ofKeys stored.name publicKey privateKey).mapError .keyMismatch

end StoredAccount

namespace Store

def document : Json.Record (Option (List StoredAccount)) (List StoredAccount) where
  kind := "StoreFile"
  members := [.ofShape "accounts" (.list StoredAccount.record.shape) id fun v _ => some v]
  blank := none
  complete draft := Json.required "accounts" draft

def toJson (store : Store) : Json :=
  .object [("accounts",
    .array (store.accounts.map fun account => (StoredAccount.ofAccount account).toJson))]

def text (store : Store) : String := store.toJson.indented

/-- Takes stored accounts in order; `taken` are the names of those before. -/
def accountsOf (taken : List String) : List StoredAccount → Except Defect (List Account)
  | [] => .ok []
  | stored :: rest =>
    if stored.name ∈ taken then .error (.duplicateName stored.name)
    else do
      let account ← stored.toAccount
      let accounts ← accountsOf (stored.name :: taken) rest
      return account :: accounts

def ofText (text : String) : Except Defect Store := do
  let stored ← (document.parse text).mapError .malformed
  return ⟨← accountsOf [] stored⟩

def load (files : FileTree) (path : Path) : Except StoreError Store :=
  match files.read path with
  | .error .notFound => .ok empty
  | .error error => .error (.io error)
  | .ok content =>
    match Utf8.decode? content with
    | none => .error (.io .notText)
    | some text => (ofText text).mapError (.corrupt path)

def loadOrEmpty (files : FileTree) (path : Path) : Store × Option StoreError :=
  match load files path with
  | .ok store => (store, none)
  | .error error => (empty, some error)

def save (store : Store) (files : FileTree) (path : Path) : Except StoreError Unit × FileTree :=
  match files.replace path (Utf8.encode store.text) with
  | (.ok (), files) => (.ok (), files)
  | (.error error, files) => (.error (.io error), files)

end Store

end LedgerWallet
