import LedgerWallet.Bytes.Utf8
import LedgerWallet.Text.Style
import LedgerWallet.Wallet.Basic

namespace LedgerWallet

structure Setup where
  node : Node
  nodeUrl : String
  gasPrice : Amount
  gasLimit : Amount
  isColored : Bool

structure Console where
  wallet : Wallet
  files : FileTree
  seeds : Seeds
  calls : List Call
  input : List ByteString
  output : String

/-- What a command does to a console. What it did before an error stays done. -/
abbrev ConsoleM := ExceptT WalletError (StateM Console)

def splitLines : ByteString → List ByteString
  | [] => []
  | byte :: rest =>
    if byte = 10 then [byte] :: splitLines rest
    else
      match splitLines rest with
      | [] => [[byte]]
      | line :: lines => (byte :: line) :: lines

namespace Console

def run {α : Type} (action : ConsoleM α) (console : Console) : Except WalletError α × Console :=
  action console

def attempt {α : Type} (action : ConsoleM α) : ConsoleM (Except WalletError α) := fun console =>
  let (result, console) := action.run console
  (.ok result, console)

def write (text : String) : ConsoleM Unit :=
  modify fun console => { console with output := console.output ++ text }

def say (text : String) : ConsoleM Unit :=
  write ("> " ++ text ++ "\n")

def textOfLine (line : ByteString) : Except WalletError String :=
  match Utf8.decode? line with
  | some text => .ok (Text.trim text)
  | none => .error (.file .notText)

def readLine : ConsoleM (Option String) := do
  match (← get).input with
  | [] => return none
  | line :: rest =>
    modify fun console => { console with input := rest }
    return some (← textOfLine line)

/-- Takes lines until one is not blank, and prints a prompt in front of each. Gives that line, the
lines behind it and the output. -/
def firstAnswer (prompt : String) :
    List ByteString → String → Except WalletError String × List ByteString × String
  | [], output => (.error .inputClosed, [], output ++ prompt)
  | line :: rest, output =>
    match textOfLine line with
    | .error error => (.error error, rest, output ++ prompt)
    | .ok text =>
      if text = "" then firstAnswer prompt rest (output ++ prompt)
      else (.ok text, rest, output ++ prompt)

def ask (question : String) : ConsoleM String := fun console =>
  let (result, input, output) :=
    firstAnswer ("> " ++ question ++ ": ") console.input console.output
  (result, { console with input, output })

def paramsOr (params question : String) : ConsoleM String :=
  if params = "" then ask question else return params

def createAccount (name : String) : ConsoleM Account := do
  let console ← get
  let (account, wallet, seeds) ← console.wallet.create console.seeds name
  set { console with wallet, seeds }
  return account

def selectAccount (selector : Selector) : ConsoleM Account := do
  let console ← get
  let (account, wallet) ← console.wallet.select selector
  set { console with wallet }
  return account

def persist : ConsoleM Unit := do
  let console ← get
  let (result, wallet, files) := console.wallet.persist console.files
  set { console with wallet, files }
  result

def currentAccount : ConsoleM Account := do
  (← get).wallet.currentAccount

def sign (message : ByteString) : ConsoleM Signature := do
  (← get).wallet.sign message

def accountState (setup : Setup) (address : Address) : ConsoleM AccountState := do
  let console ← get
  let (result, calls) := console.wallet.accountState setup.node console.calls address
  set { console with calls }
  result

def transactionState (setup : Setup) (id : TransactionId) : ConsoleM TransactionState := do
  let console ← get
  let (result, calls) := console.wallet.transactionState setup.node console.calls id
  set { console with calls }
  result

def submit (setup : Setup) (transfer : Transfer) : ConsoleM TransactionState := do
  let console ← get
  let (result, calls) := console.wallet.submit setup.node console.calls transfer
  set { console with calls }
  result

end Console

end LedgerWallet
