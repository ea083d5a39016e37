import LedgerWallet.Console.Basic
import LedgerWallet.Console.Command
import LedgerWallet.Console.TransferRequest

namespace LedgerWallet.Console

variable (setup : Setup)

def accountNew (params : String) : ConsoleM Unit := do
  say "Create a new account"
  let name ← paramsOr params "Enter an alias for the new account"
  let account ← createAccount name
  persist
  say ("Created account: " ++ Text.Style.green.paint setup.isColored account.name ++
    ", address: " ++ account.address.text)

def sayChoices : Nat → List String → ConsoleM Unit
  | _, [] => return ()
  | position, name :: names => do
    say (Numeral.write position ++ ") " ++ name)
    sayChoices (position + 1) names

/-- What the operator chooses; nothing for a zero that is typed as an answer. -/
def choice? (params : String) : ConsoleM (Option String) := do
  if params = "" then
    say "Choose an account to load:"
    sayChoices 1 (← get).wallet.store.names
    let answer ← ask "Enter a number or alias (0 for none)"
    if answer = "0" then
      say "none selected"
      return none
    else return some answer
  else return some params

def accountSet (params : String) : ConsoleM Unit := do
  if (← get).wallet.store.isEmpty then accountNew setup ""
  else
    match ← choice? params with
    | none => return ()
    | some choice =>
      let account ← selectAccount (Selector.parse choice)
      say ("Loaded account alias: `" ++ Text.Style.green.paint setup.isColored account.name ++
        "`, address: " ++ account.address.text)

def sayAccounts (current : Option String) : Nat → List Account → ConsoleM Unit
  | _, [] => return ()
  | position, account :: accounts => do
    let marker := if current = some account.name then "*" else " "
    say (marker ++ Numeral.write position ++ ") " ++ account.name ++ " " ++ account.address.text)
    sayAccounts current (position + 1) accounts

def accountList : ConsoleM Unit := do
  let wallet := (← get).wallet
  if wallet.store.isEmpty then say "No accounts yet. Use `account-new`."
  sayAccounts (wallet.currentAccount.toOption.map Account.name) 1 wallet.store.accounts

def currentOrChosen : ConsoleM Account := do
  match ← attempt currentAccount with
  | .ok account => return account
  | .error _ =>
    match (← get).wallet.status with
    | .noAccounts => accountNew setup ""
    | _ => accountSet setup ""
    currentAccount

def sayState (state : AccountState) : ConsoleM Unit := do
  say ("Balance: " ++ state.currentBalance.display)
  say ("Nonce: " ++ Numeral.write state.currentNonce.toNat)
  say ("Projected Balance: " ++ state.projectedBalance.display)
  say ("Projected Nonce: " ++ Numeral.write state.projectedNonce.toNat)

def accountInfo : ConsoleM Unit := do
  let account ← currentOrChosen setup
  let state ← accountState setup account.address
  say ("Local alias: " ++ Text.Style.green.paint setup.isColored account.name)
  say ("Address: " ++ account.address.text)
  sayState state
  say ("Projected account state includes all pending transactions " ++
    "that haven't been added to the ledger yet.")
  say ("Public key: 0x" ++ Hex.encode account.publicKey.toList)
  say ("Private key: 0x" ++
    Text.Style.red.paint setup.isColored (Hex.encode account.privateKey.toList))

def saySignature (signature : Signature) : ConsoleM Unit :=
  say ("signature (in hex): " ++ Hex.encode signature.bytes.toList)

def accountSign (params : String) : ConsoleM Unit := do
  let _ ← currentOrChosen setup
  let text ← paramsOr params "Enter a hex message to sign"
  let message ← (Hex.decode (Text.dropHexMark text)).mapError WalletError.messageNotHex
  saySignature (← sign message)

def accountTextSign (params : String) : ConsoleM Unit := do
  let _ ← currentOrChosen setup
  let text ← paramsOr params "Enter a text message to sign"
  saySignature (← sign (Utf8.encode text))

def transferText (params : String) : ConsoleM String := do
  if params = "" then
    let recipient ← ask "Enter recipient address"
    let amount ← ask "Enter amount to transfer in Smidge"
    return recipient ++ " " ++ amount
  else return params

def sendText (account : Account) (text : String) : ConsoleM Unit := do
  let request ← TransferRequest.parse text setup.gasPrice setup.gasLimit
  let nonce := (← accountState setup account.address).projectedNonce
  say ("Sending " ++ request.amount.display ++ " from `" ++ account.name ++ "` to " ++
    request.recipient.text ++ " (nonce " ++ Numeral.write nonce.toNat ++ ", gas price " ++
    Numeral.write request.gasPrice.toNat ++ ", gas limit " ++
    Numeral.write request.gasLimit.toNat ++ ")")
  let state ← submit setup {
    nonce := nonce
    amount := request.amount
    recipient := request.recipient
    gasLimit := request.gasLimit
    gasPrice := request.gasPrice }
  say (Text.Style.green.paint setup.isColored "Transaction submitted:" ++ " " ++ state.display)

def accountSendCoin (params : String) : ConsoleM Unit := do
  let account ← currentOrChosen setup
  sendText setup account (← transferText params)

def stateAccount (params : String) : ConsoleM Unit := do
  let text ← paramsOr params "Enter an account address"
  let address ← (Address.parse text).mapError WalletError.badAddress
  let state ← accountState setup address
  say ("Address: " ++ address.text)
  sayState state

def readId (text : String) : Except WalletError TransactionId :=
  match Hex.decodeFixed? 32 (Text.dropHexMark text) with
  | some id => .ok id
  | none => .error (.badTransactionId text)

def statusTx (params : String) : ConsoleM Unit := do
  let text ← paramsOr params "Enter a transaction id"
  let state ← transactionState setup (← readId text)
  say ("Transaction: 0x" ++ Hex.encode state.id.toList)
  say ("State: " ++ state.label)

def sayHelp : List Command → ConsoleM Unit
  | [] => return ()
  | command :: commands => do
    let name := Text.Style.bold.paint setup.isColored (Text.padEnd 20 command.name)
    say (name ++ " " ++ command.description)
    sayHelp commands

inductive Flow where
  | goOn
  | quit
  deriving DecidableEq

def perform (action : Action) (params : String) : ConsoleM Flow := do
  match action with
  | .accountNew => accountNew setup params
  | .accountSet => accountSet setup params
  | .accountList => accountList
  | .accountInfo => accountInfo setup
  | .accountSign => accountSign setup params
  | .accountTextSign => accountTextSign setup params
  | .accountSendCoin => accountSendCoin setup params
  | .stateAccount => stateAccount setup params
  | .statusTx => statusTx setup params
  | .help => sayHelp setup Command.all
  | .quit => return .quit
  return .goOn

def execute (line : String) : ConsoleM Flow := do
  match Command.dispatch line with
  | none =>
    say "invalid command."
    return .goOn
  | some (command, params) => perform setup command.action params

def report (error : WalletError) : ConsoleM Unit :=
  say (Text.Style.red.paint setup.isColored error.message)

def executeAndReport (line : String) : ConsoleM Flow := do
  match ← attempt (execute setup line) with
  | .ok flow => return flow
  | .error error =>
    report setup error
    return .goOn

/-- Reads and executes at most `count` lines. Tells whether the commands came to their end. -/
def loop : Nat → ConsoleM Bool
  | 0 => return false
  | count + 1 => do
    write "$ "
    match ← readLine with
    | none => return true
    | some line =>
      if line = "" then loop count
      else
        match ← executeAndReport setup line with
        | .quit => return true
        | .goOn => loop count

def welcome : ConsoleM Unit := do
  say ("Welcome. Using node " ++ setup.nodeUrl ++ ", accounts in " ++
    (← get).wallet.accountsPath.text)
  say "Type `help` for the list of commands."

def session : ConsoleM Unit := do
  welcome setup
  let _ ← loop setup ((← get).input.length + 1)

end LedgerWallet.Console
