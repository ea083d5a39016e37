import LedgerWallet.Wallet.Error

namespace LedgerWallet

structure TransferRequest where
  recipient : Address
  amount : Amount
  gasPrice : Amount
  gasLimit : Amount
  deriving DecidableEq

namespace TransferRequest

def readNumber (number : TransferNumber) (word : String) : Except WalletError UInt64 :=
  (Numeral.readWord word).mapError (.badNumber number word)

def readNumberOr (fallback : Amount) (number : TransferNumber) :
    Option String → Except WalletError UInt64
  | none => .ok fallback
  | some word => readNumber number word

def ofWords (gasPrice gasLimit : Amount) : List String → Except WalletError TransferRequest
  | [] => .error .missingRecipient
  | word :: rest => do
    let recipient ← (Address.parse word).mapError .badAddress
    let amount ←
      match rest[0]? with
      | none => .error .missingAmount
      | some word => readNumber .amount word
    let gasPrice ← readNumberOr gasPrice .gasPrice rest[1]?
    let gasLimit ← readNumberOr gasLimit .gasLimit rest[2]?
    match rest[3]? with
    | some extra => .error (.extraWord extra)
    | none =>
      if amount = 0 then .error .zeroAmount
      else .ok ⟨recipient, amount, gasPrice, gasLimit⟩

def parse (text : String) (gasPrice gasLimit : Amount) : Except WalletError TransferRequest :=
  ofWords gasPrice gasLimit (Text.words text)

end TransferRequest

end LedgerWallet
