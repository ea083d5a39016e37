import LedgerWallet.Node.Ledger
import LedgerWallet.Proofs.Wallet.Signing

namespace LedgerWallet

open Ledger

namespace Ledger

end Ledger

namespace Wallet

variable {wallet : Wallet} {accounts : List (Address × AccountState)} {limit : Nat}
  {calls : List Call}

end Wallet

namespace Desk

variable {node : Node} {desk : Desk}

def signed? (desk : Desk) : Operation → Option SignedTransfer
  | .submit transfer =>
    match desk.wallet.currentAccount with
    | .ok account => (account.signTransfer transfer).toOption
    | .error _ => none
  | _ => none

def sent (node : Node) : Desk → List Operation → List SignedTransfer
  | _, [] => []
  | desk, operation :: operations =>
    (desk.signed? operation).toList ++ sent node (desk.perform node operation).2 operations

end Desk

end LedgerWallet
