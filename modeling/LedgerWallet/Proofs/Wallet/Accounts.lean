import LedgerWallet.Proofs.Store.RoundTrip
import LedgerWallet.Proofs.Wallet.Desk

namespace LedgerWallet

theorem Store.mem_of_get {store : Store} {account : Account} {position : Nat}
    (h : store.get position = .ok account) :
    account ∈ store.accounts := by
  unfold get at h
  split at h
  · cases h
  · split at h
    · rename_i found
      cases h
      exact List.mem_of_getElem? found
    · cases h

namespace Wallet

theorem sound_openIn (files : FileTree) (directory : Path) (patience : Nat) :
    (openIn files directory patience).1.store.Sound := by
  change (Store.loadOrEmpty files (directory.join accountsFileName)).1.Sound
  unfold Store.loadOrEmpty
  cases loaded : Store.load files (directory.join accountsFileName) with
  | error error => exact Store.sound_empty
  | ok store => exact Store.sound_of_load loaded

variable {wallet : Wallet} {account : Account}

theorem persist_store (wallet : Wallet) (files : FileTree) :
    (wallet.persist files).2.1.store = wallet.store := by
  unfold persist
  split <;> rfl

theorem mem_of_currentAccount (h : wallet.currentAccount = .ok account) :
    account ∈ wallet.store.accounts := by
  unfold currentAccount Session.currentAccount? at h
  cases chosen : wallet.session.current with
  | none =>
    rw [chosen] at h
    cases h
  | some position =>
    rw [chosen] at h
    cases found : wallet.store.get position with
    | error error =>
      simp only [found, Except.toOption] at h
      cases h
    | ok other =>
      simp only [found, Except.toOption] at h
      cases h
      exact Store.mem_of_get found

end Wallet

namespace Desk

variable {node : Node} {desk : Desk}

theorem run_append (node : Node) (desk : Desk) (first later : List Operation) :
    desk.run node (first ++ later) = (desk.run node first).run node later := by
  induction first generalizing desk with
  | nil => rfl
  | cons operation first ih => exact ih _

theorem sound_perform (sound : desk.wallet.store.Sound) (operation : Operation) :
    (desk.perform node operation).2.wallet.store.Sound := by
  -- Only a creation changes the accounts.
  cases operation with
  | create name =>
    cases created : desk.wallet.create desk.seeds name with
    | error error =>
      simp only [perform, created]
      exact sound
    | ok made =>
      obtain ⟨account, wallet, seeds⟩ := made
      simp only [perform, created]
      exact Store.sound_of_create sound (Wallet.create_ok created).1
  | select selector =>
    cases selected : desk.wallet.select selector with
    | error error =>
      simp only [perform, selected]
      exact sound
    | ok found =>
      obtain ⟨account, wallet⟩ := found
      simp only [perform, selected]
      obtain ⟨session, -, rfl⟩ := Wallet.select_ok selected
      exact sound
  | persist =>
    have same : (desk.perform node .persist).2.wallet.store = desk.wallet.store :=
      Wallet.persist_store desk.wallet desk.files
    rw [same]
    exact sound
  | sign message => exact sound
  | accountState address => exact sound
  | currentAccountState => exact sound
  | transactionState id => exact sound
  | submit transfer => exact sound

theorem sound_run (sound : desk.wallet.store.Sound) (operations : List Operation) :
    (desk.run node operations).wallet.store.Sound := by
  induction operations generalizing desk with
  | nil => exact sound
  | cons operation operations ih => exact ih (sound_perform sound operation)

end Desk

namespace Account

variable {account : Account}

theorem sign_of_paired (h : account.Paired) (message : ByteString) :
    ∃ signature, account.sign message = .ok signature :=
  ⟨_, if_pos h⟩

theorem signTransfer_of_sign {transfer : Transfer} {signature : Signature}
    (h : account.sign transfer.encode = .ok signature) :
    account.signTransfer transfer = .ok ⟨transfer, signature⟩ := by
  rw [signTransfer, h]
  rfl

end Account

namespace Wallet

variable {wallet : Wallet} {account : Account} {transfer : Transfer} {signature : Signature}

theorem submit_eq_ask (node : Node) (calls : List Call)
    (current : wallet.currentAccount = .ok account)
    (signs : account.sign transfer.encode = .ok signature) :
    wallet.submit node calls transfer =
      wallet.ask calls (.submit (SignedTransfer.encode ⟨transfer, signature⟩))
        (node.submit calls (SignedTransfer.encode ⟨transfer, signature⟩))
        "transaction submission" := by
  have signed : (wallet.currentAccount >>= fun account =>
      (account.signTransfer transfer).mapError fun error => .store (.keyMismatch error)) =
        .ok ⟨transfer, signature⟩ := by
    rw [current]
    change (account.signTransfer transfer).mapError _ = _
    rw [Account.signTransfer_of_sign signs]
    rfl
  unfold submit
  dsimp only
  rw [signed]

theorem submit_of_sign (node : Node) (calls : List Call)
    (current : wallet.currentAccount = .ok account)
    (signs : account.sign transfer.encode = .ok signature) :
    ∃ result, wallet.submit node calls transfer =
      (result, calls ++ [.submit (SignedTransfer.encode ⟨transfer, signature⟩)]) :=
  ⟨_, submit_eq_ask node calls current signs⟩

theorem submit_of_none {error : WalletError} (node : Node) (calls : List Call)
    (transfer : Transfer) (none : wallet.currentAccount = .error error) :
    wallet.submit node calls transfer = (.error error, calls) := by
  unfold submit
  rw [none]
  rfl

end Wallet

theorem SignedTransfer.encode_parts (signed : SignedTransfer) :
    signed.encode.length = 116 ∧ signed.encode.take 52 = signed.transfer.encode ∧
      signed.encode.drop 52 = signed.signature.bytes.toList := by
  have transferLength : signed.transfer.encode.length = 52 := signed.transfer.length_encode
  have signatureLength := signed.signature.bytes.length_toList
  refine ⟨?_, List.take_left' transferLength, List.drop_left' transferLength⟩
  rw [encode, List.length_append, transferLength, signatureLength]

end LedgerWallet
