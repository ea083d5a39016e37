import LedgerWallet.Proofs.Console.Creating
import LedgerWallet.Proofs.Console.Dispatch
import LedgerWallet.Proofs.Console.Prompting

namespace LedgerWallet

open Text

def IsTypedName (name : String) : Prop := name ≠ "" ∧ trim name = name

namespace Console

variable {α β : Type} {setup : Setup} {effects : List Effect} {params : String}

def Names (action : ConsoleM α) : Prop :=
  ∀ console, ∀ account ∈ (run action console).2.wallet.store.accounts,
    account ∈ console.wallet.store.accounts ∨ IsTypedName account.name

theorem Confined.names {action : ConsoleM α} (h : Confined setup effects action)
    (never : .account ∉ effects) : Names action := by
  have kept : ∀ console, (run action console).2.wallet.store = console.wallet.store :=
    h.kept (fun console => console.wallet.store) never (fun _ _ => rfl) (fun _ _ _ _ => rfl)
      (fun _ _ _ => rfl) (fun _ _ _ => rfl)
  intro console account member
  rw [kept] at member
  exact Or.inl member

theorem names_bind {action : ConsoleM α} {rest : α → ConsoleM β} (first : Names action)
    (later : ∀ a, Names (rest a)) : Names (action >>= rest) := by
  refine across_bind (R := fun console next => ∀ account ∈ next.wallet.store.accounts,
    account ∈ console.wallet.store.accounts ∨ IsTypedName account.name) ?_ first later
  intro before between after earlier later account member
  exact (later account member).elim (earlier account) Or.inr

theorem names_get_bind {rest : Console → ConsoleM α} (later : ∀ console, Names (rest console)) :
    Names (get >>= rest) := fun console => later console console

theorem nameFor_typed {name : String} {console : Console} (trimmed : trim params = params)
    (entered : nameFor params console = .ok name) : IsTypedName name := by
  unfold nameFor paramsOr at entered
  split at entered
  · exact firstAnswer_some entered
  · rename_i visible
    obtain rfl : params = name := Except.ok.inj entered
    exact ⟨visible, trimmed⟩

theorem mem_accounts_of_desk {before after : Console} {account : Account}
    (same : after.desk = before.desk)
    (member : account ∈ after.wallet.store.accounts) : account ∈ before.wallet.store.accounts := by
  have wallet : after.wallet = before.wallet := congrArg Desk.wallet same
  rwa [wallet] at member

theorem names_accountNew (trimmed : trim params = params) : Names (accountNew setup params) := by
  intro console account member
  have creates := creates_accountNew setup params console
  generalize run (accountNew setup params) console = done at creates member
  obtain ⟨result, after⟩ := done
  cases creates with
  | unnamed _ desk => exact Or.inl (mem_accounts_of_desk desk member)
  | refused _ _ desk => exact Or.inl (mem_accounts_of_desk desk member)
  | created entered _ _ store _ =>
    rw [store] at member
    rcases List.mem_append.1 member with old | new
    · exact Or.inl old
    · obtain rfl := List.mem_singleton.1 new
      exact Or.inr (nameFor_typed trimmed entered)

theorem names_accountSet (setup : Setup) (params : String) : Names (accountSet setup params) := by
  apply names_get_bind
  intro console
  split
  · exact names_accountNew trim_empty
  · have chosen : Confined setup [.input] (choice? params) := confined_choice? (by decide) params
    apply names_bind (chosen.names (by decide))
    intro choice
    cases choice with
    | none => exact fun _ _ member => Or.inl member
    | some choice =>
      have selected : Confined setup [.selection] (selectAccount (Selector.parse choice)) :=
        .select (by decide) _
      apply names_bind (selected.names (by decide))
      exact fun account _ _ member => Or.inl member

theorem names_currentOrChosen (setup : Setup) : Names (currentOrChosen setup) := by
  have attempted : Confined setup [] (attempt currentAccount) := .current
  have asked : Confined setup [] currentAccount := confined_currentAccount
  apply names_bind (attempted.names (by decide))
  intro result
  cases result with
  | ok account => exact fun _ _ member => Or.inl member
  | error error =>
    apply names_get_bind
    intro console
    dsimp only
    split
    · exact names_bind (names_accountNew trim_empty) fun _ => asked.names (by decide)
    · exact names_bind (names_accountSet setup "") fun _ => asked.names (by decide)

theorem AfterChoice.names {action : ConsoleM Unit} (h : AfterChoice setup effects action)
    (never : .account ∉ effects) : Names action := by
  obtain ⟨rest, rfl, later⟩ := h
  exact names_bind (names_currentOrChosen setup) fun account => (later account).names never

theorem names_perform (setup : Setup) (action : Action) (trimmed : trim params = params) :
    Names (perform setup action params) := by
  have goOn : ∀ {action : ConsoleM Unit}, Names action →
      Names (action >>= fun _ => pure Flow.goOn) :=
    fun h => names_bind h fun _ _ _ member => Or.inl member
  have plain : ∀ {action : ConsoleM Unit}, Confined setup [.input, .question] action →
      Names (action >>= fun _ => pure Flow.goOn) := fun h => goOn (h.names (by decide))
  have chosen : ∀ {action : ConsoleM Unit}, AfterChoice setup [.input, .question] action →
      Names (action >>= fun _ => pure Flow.goOn) := fun h => goOn (h.names (by decide))
  cases action with
  | accountNew => exact goOn (names_accountNew trimmed)
  | accountSet => exact goOn (names_accountSet setup params)
  | accountList => exact plain confined_accountList
  | accountInfo => exact chosen (afterChoice_accountInfo (by decide))
  | accountSign => exact chosen (afterChoice_accountSign (by decide) params)
  | accountTextSign => exact chosen (afterChoice_accountTextSign (by decide) params)
  | accountSendCoin => exact chosen (afterChoice_accountSendCoin (by decide) (by decide) params)
  | stateAccount => exact plain (confined_stateAccount (by decide) (by decide) params)
  | statusTx => exact plain (confined_statusTx (by decide) (by decide) params)
  | help => exact plain (confined_sayHelp Command.all)
  | quit => exact fun _ _ member => Or.inl member

theorem names_execute (setup : Setup) (line : String) : Names (execute setup line) := by
  unfold execute
  split
  · exact fun _ _ member => Or.inl member
  · rename_i dispatched
    exact names_perform setup _ (Command.trim_params dispatched)

end Console

end LedgerWallet
