import LedgerWallet.Text.Blank

namespace LedgerWallet

inductive Action where
  | accountNew
  | accountSet
  | accountList
  | accountInfo
  | accountSign
  | accountTextSign
  | accountSendCoin
  | stateAccount
  | statusTx
  | help
  | quit
  deriving DecidableEq

structure Command where
  name : String
  description : String
  action : Action
  deriving DecidableEq

namespace Command

def all : List Command := [
  ⟨"account-new", "Create a new account (key pair)", .accountNew⟩,
  ⟨"account-set", "Set one of the previously created accounts as current", .accountSet⟩,
  ⟨"account-list", "List the local accounts", .accountList⟩,
  ⟨"account-info", "Display the current account info", .accountInfo⟩,
  ⟨"account-sign", "Sign a hex message with the current account private key", .accountSign⟩,
  ⟨"account-text-sign", "Sign a text message with the current account private key",
    .accountTextSign⟩,
  ⟨"account-send-coin", "Transfer coins from current account to another account",
    .accountSendCoin⟩,
  ⟨"state-account", "Display an account balance and nonce", .stateAccount⟩,
  ⟨"status-tx", "Display a transaction status", .statusTx⟩,
  ⟨"help", "Display the available commands", .help⟩,
  ⟨"quit", "Quit this app", .quit⟩]

def rest? (command : Command) (chars : List Char) : Option (List Char) :=
  Text.dropStart? command.name.toList chars

def dispatch (line : String) : Option (Command × String) :=
  let chars := Text.trimStartChars line.toList
  all.findSome? fun command =>
    (command.rest? chars).map fun rest => (command, String.ofList (Text.trimChars rest))

end Command

end LedgerWallet
