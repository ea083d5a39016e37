import LedgerWallet.Node.Basic
import LedgerWallet.Store.Basic

namespace LedgerWallet

inductive TransferNumber where
  | amount
  | gasPrice
  | gasLimit
  deriving DecidableEq

def TransferNumber.text : TransferNumber → String
  | .amount => "amount"
  | .gasPrice => "gas price"
  | .gasLimit => "gas limit"

inductive WalletError where
  | store (error : StoreError)
  | node (error : NodeError)
  | noCurrentAccount
  | missingRecipient
  | badAddress (error : Address.ParseError)
  | missingAmount
  | zeroAmount
  | badNumber (number : TransferNumber) (text : String) (error : Numeral.ReadError)
  | extraWord (word : String)
  | inputClosed
  | messageNotHex (error : Hex.DecodeError)
  | badTransactionId (text : String)
  | configNotOpened (path : Path) (error : IoError)
  | configMalformed (path : Path) (error : Json.Error)
  | file (error : IoError)

namespace WalletError

inductive Kind where
  | store
  | node
  | noCurrentAccount
  | invalidAddress
  | invalidAmount
  | invalidInput
  | config
  | file
  deriving DecidableEq

def kind : WalletError → Kind
  | store _ => .store
  | node _ => .node
  | noCurrentAccount => .noCurrentAccount
  | missingRecipient | badAddress _ => .invalidAddress
  | missingAmount | zeroAmount | badNumber .. => .invalidAmount
  | extraWord _ | inputClosed | messageNotHex _ | badTransactionId _ => .invalidInput
  | configNotOpened .. | configMalformed .. => .config
  | file _ => .file

def Kind.heading : Kind → String
  | store => ""
  | node => "Remote error: "
  | noCurrentAccount => "No current account selected"
  | invalidAddress => "Invalid address: "
  | invalidAmount => "Invalid amount: "
  | invalidInput => "Invalid input: "
  | config => "Configuration error: "
  | file => "File error: "

def detail : WalletError → String
  | store error => error.message
  | node error => error.message
  | noCurrentAccount => ""
  | missingRecipient => "missing recipient"
  | badAddress error => error.message
  | missingAmount => "missing amount"
  | zeroAmount => "amount must be positive"
  | badNumber number text error => number.text ++ " `" ++ text ++ "`: " ++ error.message
  | extraWord word => "unexpected `" ++ word ++ "`"
  | inputClosed => "input closed"
  | messageNotHex error => "message is not hex: " ++ error.message
  | badTransactionId text => "bad transaction id `" ++ text ++ "`"
  | configNotOpened path error => path.text ++ ": " ++ error.message
  | configMalformed path error => path.text ++ ": " ++ error.message
  | file error => error.message

def message (error : WalletError) : String :=
  error.kind.heading ++ error.detail

end WalletError

end LedgerWallet
