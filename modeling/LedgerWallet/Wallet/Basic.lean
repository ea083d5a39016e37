import LedgerWallet.Session
import LedgerWallet.Store.File
import LedgerWallet.Wallet.Error

namespace LedgerWallet

structure Wallet where
  store : Store
  session : Session
  accountsPath : Path
  /-- The file at `accountsPath` could not be understood and still stands there. -/
  isCorrupt : Bool
  patience : Nat

namespace Wallet

def accountsFileName : String := "accounts.json"

def corruptSuffix : String := ".corrupt"

def ofStore (store : Store) (accountsPath : Path) (patience : Nat) : Wallet :=
  ⟨store, Session.start, accountsPath, false, patience⟩

def isCorruption : StoreError → Bool
  | .corrupt _ _ => true
  | _ => false

/-- Opens the accounts file in a directory. When that fails the wallet starts empty, and the file
stays as it is until `persist`. -/
def openIn (files : FileTree) (directory : Path) (patience : Nat) : Wallet × Option StoreError :=
  let path := directory.join accountsFileName
  let (store, error) := Store.loadOrEmpty files path
  ({ ofStore store path patience with isCorrupt := error.any isCorruption }, error)

def corruptPath (wallet : Wallet) : Path :=
  ⟨wallet.accountsPath.text ++ corruptSuffix⟩

def status (wallet : Wallet) : Status := wallet.session.status wallet.store

def create (wallet : Wallet) (seeds : Seeds) (name : String) :
    Except WalletError (Account × Wallet × Seeds) := do
  let (store, seeds) ← (wallet.store.create seeds name).mapError .store
  let account ← (store.get store.size).mapError .store
  let session := wallet.session.accountCreated store.size
  return (account, { wallet with store, session }, seeds)

def select (wallet : Wallet) (selector : Selector) : Except WalletError (Account × Wallet) := do
  let (account, session) ← (Session.select wallet.store selector).mapError .store
  return (account, { wallet with session })

def currentAccount (wallet : Wallet) : Except WalletError Account :=
  match wallet.session.currentAccount? wallet.store with
  | some account => .ok account
  | none => .error .noCurrentAccount

def moveAside (wallet : Wallet) (files : FileTree) : Except IoError Unit × FileTree :=
  if wallet.isCorrupt && files.contains wallet.accountsPath then
    match files.resolve wallet.accountsPath with
    | .error error => (.error error, files)
    | .ok source => files.rename source wallet.corruptPath
  else (.ok (), files)

def persist (wallet : Wallet) (files : FileTree) :
    Except WalletError Unit × Wallet × FileTree :=
  match wallet.moveAside files with
  | (.error error, files) => (.error (.file error), wallet, files)
  | (.ok (), files) =>
    let (result, files) := wallet.store.save files wallet.accountsPath
    (result.mapError .store, { wallet with isCorrupt := false }, files)

def sign (wallet : Wallet) (message : ByteString) : Except WalletError Signature := do
  let account ← wallet.currentAccount
  (account.sign message).mapError fun error => .store (.keyMismatch error)

def ask {α : Type} (wallet : Wallet) (calls : List Call) (call : Call) (reply : Reply α)
    (what : String) : Except WalletError α × List Call :=
  ((reply.within wallet.patience what).mapError .node, calls ++ [call])

def accountState (wallet : Wallet) (node : Node) (calls : List Call) (address : Address) :
    Except WalletError AccountState × List Call :=
  wallet.ask calls (.accountState address) (node.accountState calls address) "account state"

def currentAccountState (wallet : Wallet) (node : Node) (calls : List Call) :
    Except WalletError AccountState × List Call :=
  match wallet.currentAccount with
  | .error error => (.error error, calls)
  | .ok account => wallet.accountState node calls account.address

def transactionState (wallet : Wallet) (node : Node) (calls : List Call) (id : TransactionId) :
    Except WalletError TransactionState × List Call :=
  wallet.ask calls (.transactionState id) (node.transactionState calls id) "transaction state"

def submit (wallet : Wallet) (node : Node) (calls : List Call) (transfer : Transfer) :
    Except WalletError TransactionState × List Call :=
  let signed : Except WalletError SignedTransfer := do
    let account ← wallet.currentAccount
    (account.signTransfer transfer).mapError fun error => .store (.keyMismatch error)
  match signed with
  | .error error => (.error error, calls)
  | .ok signed =>
    wallet.ask calls (.submit signed.encode) (node.submit calls signed.encode)
      "transaction submission"

end Wallet

end LedgerWallet
