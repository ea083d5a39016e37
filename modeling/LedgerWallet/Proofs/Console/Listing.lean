import LedgerWallet.Proofs.Console.Creating
import LedgerWallet.Proofs.Console.Dispatch

namespace LedgerWallet

theorem Store.name_eq_iff_position {store : Store} {account other : Account}
    {position position' : Nat} (distinct : store.names.Nodup)
    (found : store.get position = .ok account) (found' : store.get position' = .ok other) :
    account.name = other.name ↔ position = position' := by
  constructor
  · intro same
    have first := (positionOf?_eq_some_iff distinct).2 ⟨account, found, rfl⟩
    have second := (positionOf?_eq_some_iff distinct).2 ⟨other, found', rfl⟩
    rw [same, second] at first
    exact (Option.some.inj first).symm
  · intro same
    rw [same, found'] at found
    cases found
    rfl

theorem Wallet.currentName_eq_iff {wallet : Wallet} {account : Account} {index : Nat}
    (valid : wallet.SelectionValid) (distinct : wallet.store.names.Nodup)
    (here : wallet.store.accounts[index]? = some account) :
    wallet.currentAccount.toOption.map Account.name = some account.name ↔
      wallet.status = .selected (index + 1) := by
  rw [status_eq_selected_iff]
  cases selected : wallet.session.current with
  | none =>
    rw [currentAccount_of_none selected]
    constructor <;> intro same <;> cases same
  | some position =>
    obtain ⟨current, found⟩ := valid position selected
    have named : wallet.currentAccount.toOption.map Account.name = some current.name := by
      rw [currentAccount_of_selected selected found]
      rfl
    rw [named, Option.some_inj, Option.some_inj]
    have other : wallet.store.get (index + 1) = .ok account :=
      Store.get_eq_ok_iff.2 ⟨index, rfl, here⟩
    exact Store.name_eq_iff_position distinct found other

namespace Console

variable {setup : Setup} {console : Console} {line : String}

theorem Reachable.selectionValid (h : Reachable setup console) : console.wallet.SelectionValid :=
  h.keeps Wallet.selectionValid_openIn
    fun operations valid => Desk.selectionValid_run valid operations

def entry (isCurrent : Bool) (position : Nat) (account : Account) : String :=
  "> " ++ ((if isCurrent then "*" else " ") ++ Numeral.write position ++ ") " ++ account.name ++
    " " ++ account.address.text) ++ "\n"

def IsMarked (printed : String) : Prop := ∃ rest, printed = "> *" ++ rest

theorem isMarked_entry_iff (isCurrent : Bool) (position : Nat) (account : Account) :
    IsMarked (entry isCurrent position account) ↔ isCurrent = true := by
  cases isCurrent with
  | true =>
    refine iff_of_true ⟨Numeral.write position ++ ") " ++ account.name ++ " " ++
      account.address.text ++ "\n", ?_⟩ rfl
    have mark : "> *" = "> " ++ "*" := by decide
    simp only [entry, if_true, mark, String.append_assoc]
  | false =>
    refine iff_of_false ?_ Bool.false_ne_true
    intro ⟨rest, same⟩
    have third := congrArg (fun text => text.toList[2]?) same
    simp [entry] at third

def entries (current : Option String) (position : Nat) (accounts : List Account) : List String :=
  accounts.mapIdx fun index account =>
    entry (current = some account.name) (index + position) account

theorem entries_cons (current : Option String) (position : Nat) (account : Account)
    (accounts : List Account) :
    entries current position (account :: accounts) =
      entry (current = some account.name) position account ::
        entries current (position + 1) accounts := by
  simp only [entries, List.mapIdx_cons, Nat.zero_add, Nat.add_assoc, Nat.add_comm 1]

theorem run_sayAccounts (current : Option String) (position : Nat) (accounts : List Account)
    (console : Console) :
    run (sayAccounts current position accounts) console = (.ok (), { console with
      output := console.output ++ String.join (entries current position accounts) }) := by
  induction accounts generalizing position console with
  | nil =>
    have nothing : String.join (entries current position []) = "" := String.join_nil
    rw [nothing, String.append_empty]
    rfl
  | cons account accounts ih =>
    rw [sayAccounts, run_bind_of_ok (run_say _ _), ih, entries_cons, String.join_cons]
    simp only [entry, decide_eq_true_eq, String.append_assoc]

def MarkedAt (printed : List String) (position : Nat) : Prop :=
  ∃ index text, position = index + 1 ∧ printed[index]? = some text ∧ IsMarked text

/-- The entries show the accounts of a wallet in the order of their creation, each with its
position, and mark the current account only. -/
structure Lists (wallet : Wallet) (printed : List String) : Prop where
  length : printed.length = wallet.store.size
  shows : ∀ (index : Nat) account, wallet.store.accounts[index]? = some account →
    ∃ isCurrent, printed[index]? = some (entry isCurrent (index + 1) account)
  marks : ∀ position, MarkedAt printed position ↔ wallet.status = .selected position

theorem Lists.unmarked {wallet : Wallet} {printed : List String} (lists : Lists wallet printed)
    (unselected : wallet.session.current = none) : ∀ text ∈ printed, ¬ IsMarked text := by
  intro text member marked
  obtain ⟨index, there⟩ := List.getElem?_of_mem member
  have selected := (lists.marks (index + 1)).1 ⟨index, text, rfl, there, marked⟩
  rw [Wallet.status_eq_selected_iff, unselected] at selected
  cases selected

theorem Lists.marked_once {wallet : Wallet} {printed : List String} (lists : Lists wallet printed)
    {position position' : Nat} (marked : MarkedAt printed position)
    (marked' : MarkedAt printed position') : position = position' := by
  have selected := (lists.marks position).1 marked
  rw [(lists.marks position').1 marked'] at selected
  cases selected
  rfl

theorem getElem?_entries (current : Option String) (accounts : List Account) (index : Nat) :
    (entries current 1 accounts)[index]? = accounts[index]?.map fun account =>
      entry (current = some account.name) (index + 1) account :=
  List.getElem?_mapIdx

theorem lists_entries {wallet : Wallet} (valid : wallet.SelectionValid)
    (distinct : wallet.store.names.Nodup) :
    Lists wallet
      (entries (wallet.currentAccount.toOption.map Account.name) 1 wallet.store.accounts) := by
  refine ⟨List.length_mapIdx, ?_, ?_⟩
  · intro index account here
    exact ⟨_, by rw [getElem?_entries, here, Option.map_some]⟩
  intro position
  constructor
  · intro ⟨index, text, same, there, marked⟩
    rw [getElem?_entries] at there
    obtain ⟨account, here, shown⟩ := Option.map_eq_some_iff.1 there
    rw [← shown, isMarked_entry_iff, decide_eq_true_iff] at marked
    rw [same]
    exact (Wallet.currentName_eq_iff valid distinct here).1 marked
  · intro selected
    obtain ⟨account, found⟩ := valid position (Wallet.status_eq_selected_iff.1 selected)
    obtain ⟨index, rfl, here⟩ := Store.get_eq_ok_iff.1 found
    have named := (Wallet.currentName_eq_iff valid distinct here).2 selected
    refine ⟨index, _, rfl, by rw [getElem?_entries, here, Option.map_some], ?_⟩
    rw [isMarked_entry_iff, decide_eq_true_iff]
    exact named

def notice (store : Store) : String :=
  if store.isEmpty then "> No accounts yet. Use `account-new`.\n" else ""

theorem run_accountList (console : Console) :
    run accountList console = (.ok (), { console with
      output := console.output ++ notice console.wallet.store ++
        String.join (entries (console.wallet.currentAccount.toOption.map Account.name) 1
          console.wallet.store.accounts) }) := by
  rw [accountList, run_get_bind, notice]
  by_cases empty : console.wallet.store.isEmpty
  · dsimp only
    rw [if_pos empty, if_pos empty, run_bind_of_ok (run_say _ _), run_sayAccounts]
    rfl
  · dsimp only
    rw [if_neg empty, if_neg empty, run_sayAccounts, String.append_empty]

/-- Listing the accounts only prints, in every state a console comes to: an entry for each account,
with a mark on the current one. So no entry is marked while nothing is selected, and never two. -/
theorem account_list_marks_current (reachable : Reachable setup console) {command : Command}
    {params : String} (dispatched : Command.dispatch line = some (command, params))
    (isList : command.action = .accountList) :
    ∃ printed, Lists console.wallet printed ∧
      run (execute setup line) console = (.ok .goOn, { console with
        output := console.output ++ notice console.wallet.store ++ String.join printed }) ∧
      (console.wallet.session.current = none → ∀ text ∈ printed, ¬ IsMarked text) ∧
      ∀ position position', MarkedAt printed position → MarkedAt printed position' →
        position = position' := by
  have lists := lists_entries reachable.selectionValid reachable.sound.distinct
  refine ⟨_, lists, ?_, lists.unmarked, fun _ _ => lists.marked_once⟩
  rw [execute, dispatched]
  dsimp only
  rw [isList]
  change run (accountList >>= fun _ => pure Flow.goOn) console = _
  rw [run_goOn, run_accountList]
  rfl

/-- The name of the second account is the position of the first, and the mark is on the second. -/
theorem second_account_marked :
    let second := (run (perform Sample.setup .accountNew "1") Sample.console).2
    let console := (run (perform Sample.setup .accountSet "1") second).2
    ∃ printed, Lists console.wallet printed ∧ printed.length = 2 ∧ MarkedAt printed 2 ∧
      ¬ MarkedAt printed 1 ∧ run (execute Sample.setup "account-list") console = (.ok .goOn,
        { console with output := console.output ++ String.join printed }) := by
  intro second console
  have reachable : Reachable Sample.setup console :=
    .performed .accountSet "1" (.performed .accountNew "1" reachable_sample)
  have selected : console.wallet.session.current = some 2 := by decide +kernel
  have size : console.wallet.store.size = 2 := by decide +kernel
  have nonempty : notice console.wallet.store = "" := by decide +kernel
  have dispatched : Command.dispatch "account-list" = some (Command.all[2], "") := by
    decide +kernel
  obtain ⟨printed, lists, ran, -, once⟩ :=
    account_list_marks_current reachable dispatched (by decide)
  have marked : MarkedAt printed 2 :=
    (lists.marks 2).2 (Wallet.status_eq_selected_iff.2 selected)
  refine ⟨printed, lists, lists.length.trans size, marked, fun other => ?_, ?_⟩
  · exact absurd (once 1 2 other marked) (by decide)
  · rw [nonempty, String.append_empty] at ran
    exact ran

end Console

end LedgerWallet
