import LedgerWallet.Proofs.Store.Positions
import LedgerWallet.Proofs.Wallet.Accounts

namespace LedgerWallet

namespace Wallet

variable {wallet next : Wallet} {account : Account} {position : Nat} {selector : Selector}
  {seeds rest : Seeds} {name : String}

def SelectionValid (wallet : Wallet) : Prop :=
  ∀ position, wallet.session.current = some position →
    ∃ account, wallet.store.get position = .ok account

theorem status_eq_selected_iff :
    wallet.status = .selected position ↔ wallet.session.current = some position := by
  unfold status Session.status
  cases wallet.session.current with
  | some found => simp
  | none => cases wallet.store.isEmpty <;> simp

theorem currentAccount_of_selected (selected : wallet.session.current = some position)
    (found : wallet.store.get position = .ok account) : wallet.currentAccount = .ok account := by
  unfold currentAccount Session.currentAccount?
  rw [selected]
  dsimp only
  rw [found]
  rfl

theorem currentAccount_of_none (h : wallet.session.current = none) :
    wallet.currentAccount = .error .noCurrentAccount := by
  rw [currentAccount, Session.currentAccount?, h]

def StatusTells (wallet : Wallet) : Prop :=
  match wallet.status with
  | .noAccounts =>
    wallet.store.accounts = [] ∧ wallet.currentAccount = .error .noCurrentAccount
  | .noneSelected =>
    wallet.store.accounts ≠ [] ∧ wallet.currentAccount = .error .noCurrentAccount
  | .selected position =>
    1 ≤ position ∧ position ≤ wallet.store.size ∧
      ∃ account, wallet.store.accounts[position - 1]? = some account ∧
        wallet.currentAccount = .ok account

theorem SelectionValid.statusTells (valid : wallet.SelectionValid) : wallet.StatusTells := by
  unfold StatusTells status Session.status
  cases selected : wallet.session.current with
  | none =>
    have nothing := currentAccount_of_none selected
    cases empty : wallet.store.isEmpty with
    | true => exact ⟨List.isEmpty_iff.1 empty, nothing⟩
    | false => exact ⟨List.isEmpty_eq_false_iff.1 empty, nothing⟩
  | some position =>
    obtain ⟨account, found⟩ := valid position selected
    obtain ⟨index, rfl, here⟩ := Store.get_eq_ok_iff.1 found
    have inside : index < wallet.store.size := (List.getElem?_eq_some_iff.1 here).1
    exact ⟨Nat.le_add_left 1 index, inside, account, here,
      currentAccount_of_selected selected found⟩

theorem selectionValid_openIn (files : FileTree) (directory : Path) (patience : Nat) :
    (openIn files directory patience).1.SelectionValid := by
  intro position selected
  cases selected

theorem selectionValid_of_current (h : wallet.currentAccount = .ok account) :
    wallet.SelectionValid := by
  intro position selected
  unfold currentAccount Session.currentAccount? at h
  rw [selected] at h
  dsimp only at h
  cases found : wallet.store.get position with
  | error error =>
    rw [found] at h
    cases h
  | ok other => exact ⟨other, rfl⟩

theorem SelectionValid.of_get (valid : wallet.SelectionValid)
    (session : next.session = wallet.session)
    (kept : ∀ {account} position, wallet.store.get position = .ok account →
      next.store.get position = .ok account) : next.SelectionValid := by
  intro position selected
  obtain ⟨account, found⟩ := valid position (session ▸ selected)
  exact ⟨account, kept position found⟩

theorem select_current (h : wallet.select selector = .ok (account, next)) :
    next.store = wallet.store ∧
      ∃ position, next.session.current = some position ∧
        next.store.get position = .ok account := by
  obtain ⟨session, selected, rfl⟩ := select_ok h
  obtain ⟨position, -, selected⟩ := bind_ok selected
  obtain ⟨found, here, selected⟩ := bind_ok selected
  cases selected
  exact ⟨rfl, position, rfl, here⟩

theorem SelectionValid.current_of_empty (valid : wallet.SelectionValid)
    (empty : wallet.store.accounts = []) : wallet.session.current = none := by
  cases selected : wallet.session.current with
  | none => rfl
  | some position =>
    obtain ⟨account, found⟩ := valid position selected
    have member := Store.mem_of_get found
    rw [empty] at member
    cases member

theorem currentAccount_of_add {next : Wallet} (valid : wallet.SelectionValid)
    (store : next.store = wallet.store.add account) (session : next.session = wallet.session) :
    next.currentAccount = wallet.currentAccount := by
  cases selected : wallet.session.current with
  | none =>
    rw [currentAccount_of_none selected, currentAccount_of_none (session ▸ selected)]
  | some position =>
    obtain ⟨current, found⟩ := valid position selected
    have kept : next.store.get position = .ok current := by
      rw [store]
      exact Store.get_add found account
    rw [currentAccount_of_selected selected found,
      currentAccount_of_selected (session ▸ selected) kept]

theorem create_adds (h : wallet.create seeds name = .ok (account, next, rest)) :
    account.name = name ∧ next.store = wallet.store.add account ∧
      next.store.get next.store.size = .ok account ∧
      next.session = wallet.session.accountCreated next.store.size := by
  obtain ⟨stored, found, same⟩ := create_ok h
  obtain ⟨-, added⟩ := Store.add_of_create stored
  have last : next.store.get next.store.size = .ok (Account.generate seeds.next name) := by
    rw [added]
    exact Store.get_eq_ok_iff.2
      ⟨wallet.store.size, by simp [Store.size, Store.add], by simp [Store.size, Store.add]⟩
  have isNew : Account.generate seeds.next name = account := by
    rw [last] at found
    cases found
    rfl
  subst isNew
  exact ⟨rfl, added, found, by rw [same]⟩

theorem create_selection (valid : wallet.SelectionValid)
    (h : wallet.create seeds name = .ok (account, next, rest)) :
    if wallet.store.accounts = [] then
      next.session.current = some 1 ∧ next.store.get 1 = .ok account
    else next.session = wallet.session := by
  obtain ⟨-, store, last, session⟩ := create_adds h
  have size : next.store.size = wallet.store.accounts.length + 1 := by
    rw [store]
    simp [Store.size, Store.add]
  split
  · rename_i empty
    have first : next.store.size = 1 := by rw [size, empty, List.length_nil]
    rw [first] at last session
    rw [session, Session.accountCreated, if_pos ⟨valid.current_of_empty empty, rfl⟩]
    exact ⟨rfl, last⟩
  · rename_i nonempty
    have later : next.store.size ≠ 1 := by
      have some := List.length_pos_of_ne_nil nonempty
      omega
    rw [session, Session.accountCreated, if_neg fun both => later both.2]

theorem persist_session (wallet : Wallet) (files : FileTree) :
    (wallet.persist files).2.1.session = wallet.session := by
  unfold persist
  split <;> rfl

end Wallet

namespace Desk

open Wallet

variable {node : Node} {desk : Desk}

/-- What an operation does to the accounts and to the current one. A creation adds an account, which
becomes current exactly if it is the first one; a selection makes the account that it gives current;
and operations that fail or that do neither leave the accounts and the selection alone. -/
def SelectionStep (node : Node) (desk : Desk) (operation : Operation) : Prop :=
  let (failed, next) := desk.perform node operation
  match operation, failed with
  | .create name, none =>
    ∃ account, account.name = name ∧ next.wallet.store = desk.wallet.store.add account ∧
      if desk.wallet.store.accounts = [] then
        next.wallet.status = .selected 1 ∧ next.wallet.currentAccount = .ok account
      else
        next.wallet.session = desk.wallet.session ∧
          next.wallet.currentAccount = desk.wallet.currentAccount
  | .select selector, none =>
    next.wallet.store = desk.wallet.store ∧
      ∃ account, desk.wallet.select selector = .ok (account, next.wallet) ∧
        next.wallet.currentAccount = .ok account
  | _, _ =>
    next.wallet.store = desk.wallet.store ∧ next.wallet.session = desk.wallet.session

theorem selectionStep (valid : desk.wallet.SelectionValid) (operation : Operation) :
    desk.SelectionStep node operation := by
  cases operation with
  | create name =>
    cases created : desk.wallet.create desk.seeds name with
    | error error =>
      simp only [SelectionStep, perform, created, and_self]
    | ok made =>
      obtain ⟨account, next, seeds⟩ := made
      obtain ⟨named, store, -, -⟩ := create_adds created
      have selection := create_selection valid created
      simp only [SelectionStep, perform, created]
      refine ⟨account, named, store, ?_⟩
      by_cases empty : desk.wallet.store.accounts = []
      · rw [if_pos empty] at selection ⊢
        obtain ⟨first, found⟩ := selection
        exact ⟨status_eq_selected_iff.2 first, currentAccount_of_selected first found⟩
      · rw [if_neg empty] at selection ⊢
        exact ⟨selection, currentAccount_of_add valid store selection⟩
  | select selector =>
    cases selected : desk.wallet.select selector with
    | error error =>
      simp only [SelectionStep, perform, selected, and_self]
    | ok found =>
      obtain ⟨account, next⟩ := found
      obtain ⟨store, position, current, here⟩ := select_current selected
      simp only [SelectionStep, perform, selected]
      exact ⟨store, account, rfl, currentAccount_of_selected current here⟩
  | persist => exact ⟨persist_store _ _, persist_session _ _⟩
  | sign message => exact ⟨rfl, rfl⟩
  | accountState address => exact ⟨rfl, rfl⟩
  | currentAccountState => exact ⟨rfl, rfl⟩
  | transactionState id => exact ⟨rfl, rfl⟩
  | submit transfer => exact ⟨rfl, rfl⟩

theorem selectionValid_perform (valid : desk.wallet.SelectionValid) (operation : Operation) :
    (desk.perform node operation).2.wallet.SelectionValid := by
  have step : desk.SelectionStep node operation := selectionStep valid operation
  unfold SelectionStep at step
  generalize desk.perform node operation = outcome at step ⊢
  obtain ⟨failed, next⟩ := outcome
  dsimp only at step ⊢
  split at step
  · obtain ⟨account, -, store, selection⟩ := step
    split at selection
    · exact selectionValid_of_current selection.2
    · exact valid.of_get selection.1 fun position found => store ▸ Store.get_add found account
  · obtain ⟨-, account, -, current⟩ := step
    exact selectionValid_of_current current
  · exact valid.of_get step.2 fun position found => step.1 ▸ found

theorem selectionValid_run (valid : desk.wallet.SelectionValid) (operations : List Operation) :
    (desk.run node operations).wallet.SelectionValid := by
  induction operations generalizing desk with
  | nil => exact valid
  | cons operation operations ih => exact ih (selectionValid_perform valid operation)

/-- A wallet that was opened has nothing selected. From then on, whatever is asked of it and whether
it fails or not, its status tells whether there are accounts and which one is current, and the
selection moves only with the first account and with selecting one. -/
theorem selection_over_runs (files : FileTree) (directory : Path) (patience : Nat) (node : Node)
    (seeds : Seeds) (operations : List Operation) :
    let opened : Desk := ⟨(Wallet.openIn files directory patience).1, files, seeds, []⟩
    let desk := opened.run node operations
    opened.wallet.session = Session.start ∧ desk.wallet.StatusTells ∧
      ∀ operation, desk.SelectionStep node operation := by
  intro opened desk
  have valid : desk.wallet.SelectionValid :=
    selectionValid_run (selectionValid_openIn files directory patience) operations
  exact ⟨rfl, valid.statusTells, selectionStep valid⟩

end Desk

end LedgerWallet
