import LedgerWallet.Proofs.Crypto.Signatures
import LedgerWallet.Proofs.Wallet.Selection

namespace LedgerWallet

theorem Account.verify_of_sign {account : Account} {message : ByteString} {signature : Signature}
    (h : account.sign message = .ok signature) :
    Ed25519.verify account.publicKey message signature = true := by
  unfold sign at h
  split at h
  · rename_i paired
    cases h
    rw [← paired.1]
    exact Ed25519.verify_sign _ message
  · cases h

namespace Wallet

variable {wallet : Wallet} {account : Account}

theorem sign_of_current (sound : wallet.store.Sound) (current : wallet.currentAccount = .ok account)
    (message : ByteString) :
    ∃ signature, wallet.sign message = .ok signature ∧
      account.sign message = .ok signature := by
  obtain ⟨signature, signs⟩ :=
    Account.sign_of_paired (sound.paired account (mem_of_currentAccount current)) message
  refine ⟨signature, ?_, signs⟩
  rw [sign, current]
  change (account.sign message).mapError _ = _
  rw [signs]
  rfl

theorem sign_of_none {error : WalletError} (none : wallet.currentAccount = .error error)
    (message : ByteString) : wallet.sign message = .error error := by
  rw [sign, none]
  rfl

theorem currentAccount_error {error : WalletError} (h : wallet.currentAccount = .error error) :
    error = .noCurrentAccount := by
  unfold currentAccount at h
  split at h
  · cases h
  · cases h
    rfl

theorem ask_not_store {α : Type} (wallet : Wallet) (calls : List Call) (call : Call)
    (reply : Reply α) (what : String) (error : StoreError) :
    (wallet.ask calls call reply what).1 ≠ .error (.store error) := by
  unfold ask
  cases reply.within wallet.patience what <;> simp [Except.mapError]

theorem submit_not_store (sound : wallet.store.Sound) (node : Node) (calls : List Call)
    (transfer : Transfer) (error : StoreError) :
    (wallet.submit node calls transfer).1 ≠ .error (.store error) := by
  cases current : wallet.currentAccount with
  | error none =>
    rw [submit_of_none node calls transfer current, currentAccount_error current]
    intro h
    cases h
  | ok account =>
    obtain ⟨signature, signs⟩ :=
      Account.sign_of_paired (sound.paired account (mem_of_currentAccount current)) transfer.encode
    rw [submit_eq_ask node calls current signs]
    exact ask_not_store _ _ _ _ _ error

end Wallet

namespace Desk

/-- In every state of a wallet signing fails exactly if no account is selected. Otherwise it gives a
signature of the selected account that passes the check, and no transfer fails for want of one. -/
theorem signing_never_fails (files : FileTree) (directory : Path) (patience : Nat) (node : Node)
    (seeds : Seeds) (operations : List Operation) (message : ByteString) :
    let opened : Desk := ⟨(Wallet.openIn files directory patience).1, files, seeds, []⟩
    let desk := opened.run node operations
    (match desk.wallet.status with
      | .selected position =>
        ∃ account signature, desk.wallet.store.accounts[position - 1]? = some account ∧
          desk.wallet.currentAccount = .ok account ∧
          desk.wallet.sign message = .ok signature ∧
          Ed25519.verify account.publicKey message signature = true
      | _ => desk.wallet.sign message = .error .noCurrentAccount) ∧
      ∀ transfer error,
        (desk.wallet.submit node desk.calls transfer).1 ≠ .error (.store error) := by
  intro opened desk
  have sound : desk.wallet.store.Sound :=
    sound_run (Wallet.sound_openIn files directory patience) operations
  have valid : desk.wallet.SelectionValid :=
    selectionValid_run (Wallet.selectionValid_openIn files directory patience) operations
  refine ⟨?_, Wallet.submit_not_store sound node desk.calls⟩
  have tells := valid.statusTells
  unfold Wallet.StatusTells at tells
  cases status : desk.wallet.status with
  | noAccounts =>
    rw [status] at tells
    exact Wallet.sign_of_none tells.2 message
  | noneSelected =>
    rw [status] at tells
    exact Wallet.sign_of_none tells.2 message
  | selected position =>
    rw [status] at tells
    obtain ⟨-, -, account, found, current⟩ := tells
    obtain ⟨signature, signed, signs⟩ := Wallet.sign_of_current sound current message
    exact ⟨account, signature, found, current, signed, Account.verify_of_sign signs⟩

end Desk

end LedgerWallet
