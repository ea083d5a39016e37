import LedgerWallet.Proofs.Console.Saving
import LedgerWallet.Proofs.Wallet.Selection

namespace LedgerWallet

def Store.Accepts (store : Store) (name : String) : Prop :=
  Text.isAllBlank name = false ∧ name ∉ store.names

namespace Wallet

variable {wallet : Wallet} {seeds : Seeds} {name : String}

def withNew (wallet : Wallet) (seeds : Seeds) (name : String) : Wallet :=
  { wallet with
    store := wallet.store.add (Account.generate seeds.next name)
    session := wallet.session.accountCreated (wallet.store.size + 1) }

theorem create_of_accepts (accepts : wallet.store.Accepts name) :
    wallet.create seeds name =
      .ok (Account.generate seeds.next name, wallet.withNew seeds name, seeds.rest) := by
  obtain ⟨visible, free⟩ := accepts
  have size : ∀ account, (wallet.store.add account).size = wallet.store.size + 1 := by
    simp [Store.size, Store.add]
  have last : ∀ account, (wallet.store.add account).get (wallet.store.size + 1) = .ok account :=
    fun account => Store.get_eq_ok_iff.2 ⟨wallet.store.size, rfl, by simp [Store.size, Store.add]⟩
  rcases wallet.store.create_cases seeds name with
    ⟨-, -, created⟩ | ⟨blank, -⟩ | ⟨-, taken, -⟩
  · simp only [create, created, size, last, bind, Except.bind, Except.mapError]
    rfl
  · rw [visible] at blank
    cases blank
  · exact absurd taken free

theorem create_of_not_accepts (seeds : Seeds) (refused : ¬ wallet.store.Accepts name) :
    ∃ error, wallet.create seeds name = .error (.store error) := by
  rcases wallet.store.create_cases seeds name with
    ⟨visible, free, -⟩ | ⟨-, failed⟩ | ⟨-, -, failed⟩
  · exact absurd ⟨visible, free⟩ refused
  · exact ⟨_, by simp only [create, failed, bind, Except.bind, Except.mapError]; rfl⟩
  · exact ⟨_, by simp only [create, failed, bind, Except.bind, Except.mapError]; rfl⟩

theorem persist_ok_or_io (wallet : Wallet) (files : FileTree) :
    (wallet.persist files).1 = .ok () ∨ IoFailure (wallet.persist files).1 := by
  unfold persist
  obtain ⟨result, moved⟩ := wallet.moveAside files
  cases result with
  | error error => exact Or.inr rfl
  | ok done =>
    obtain ⟨after, ⟨saved, -⟩ | ⟨error, failed, -⟩⟩ :=
      wallet.store.save_cases moved wallet.accountsPath
    · left
      dsimp only
      rw [saved]
      rfl
    · right
      dsimp only
      rw [failed]
      rfl

end Wallet

namespace Console

variable {setup : Setup} {console next : Console} {params : String}

def nameFor (params : String) (console : Console) : Except WalletError String :=
  (run (paramsOr params "Enter an alias for the new account") console).1

theorem nameFor_output (params : String) (console : Console) (output : String) :
    nameFor params { console with output } = nameFor params console := by
  unfold nameFor paramsOr
  split
  · exact (firstAnswer_output _ _ _ _).1
  · rfl

/-- What the command leaves: nothing has changed without a usable name, and with one there is one
more account, whatever becomes of saving it. -/
inductive Creates (params : String) (console : Console) :
    Except WalletError Unit → Console → Prop
  | unnamed {error : WalletError} {after : Console} :
      nameFor params console = .error error → after.desk = console.desk →
      Creates params console (.error error) after
  | refused {name : String} {error : StoreError} {after : Console} :
      nameFor params console = .ok name → ¬ console.wallet.store.Accepts name →
      after.desk = console.desk → Creates params console (.error (.store error)) after
  | created {name : String} {result : Except WalletError Unit} {after : Console} :
      nameFor params console = .ok name → console.wallet.store.Accepts name →
      (result = .ok () ∨ IoFailure result) →
      after.wallet.store = (console.wallet.withNew console.seeds name).store →
      after.wallet.session = (console.wallet.withNew console.seeds name).session →
      Creates params console result after

theorem creates_accountNew (setup : Setup) (params : String) (console : Console) :
    Creates params console (run (accountNew setup params) console).1
      (run (accountNew setup params) console).2 := by
  let said := { console with output := console.output ++ ("> " ++ "Create a new account" ++ "\n") }
  have start : run (say "Create a new account") console = (.ok (), said) := run_say _ _
  have named : nameFor params said = nameFor params console := nameFor_output params console _
  have quiet := quiet_paramsOr params "Enter an alias for the new account" said
  unfold accountNew
  -- The ways out are the question for the name, the creation and, only behind it, the saving.
  rw [run_bind_of_ok start, run_bind]
  unfold nameFor at named
  cases asked : run (paramsOr params "Enter an alias for the new account") said with
  | mk entered next =>
    rw [asked] at named quiet
    have sameWallet : next.wallet = console.wallet := congrArg Desk.wallet quiet
    have sameSeeds : next.seeds = console.seeds := congrArg Desk.seeds quiet
    cases entered with
    | error error => exact .unnamed named.symm quiet
    | ok name =>
      dsimp only
      rw [run_bind, run_createAccount, sameWallet, sameSeeds]
      by_cases accepts : console.wallet.store.Accepts name
      · let made := console.wallet.withNew console.seeds name
        have store := Wallet.persist_store made next.files
        have session := Wallet.persist_session made next.files
        have outcome := Wallet.persist_ok_or_io made next.files
        rw [Wallet.create_of_accepts accepts]
        dsimp only
        rw [run_bind, run_persist]
        dsimp only
        cases saved : made.persist next.files with
        | mk result changed =>
          rw [saved] at store session outcome
          cases result with
          | error error => exact .created named.symm accepts outcome store session
          | ok done => exact .created named.symm accepts (Or.inl rfl) store session
      · obtain ⟨error, failed⟩ := Wallet.create_of_not_accepts console.seeds accepts
        rw [failed]
        exact .refused named.symm accepts quiet

theorem currentAccount_of_first (setup : Setup) (visible : Text.isAllBlank params = false)
    (empty : console.wallet.store.accounts = [])
    (unselected : console.wallet.session.current = none) :
    (run (perform setup .accountNew params) console).2.wallet.currentAccount =
      .ok (Account.generate console.seeds.next params) := by
  have given : params ≠ "" := by
    rintro rfl
    cases visible
  have named : nameFor params console = .ok params := by
    rw [nameFor, run_paramsOr_of_given given]
  have accepts : console.wallet.store.Accepts params := by
    refine ⟨visible, ?_⟩
    rw [Store.names, empty]
    exact List.not_mem_nil
  have size : console.wallet.store.size = 0 := by rw [Store.size, empty, List.length_nil]
  have creates := creates_accountNew setup params console
  change (run (accountNew setup params >>= fun _ => pure Flow.goOn) console).2.wallet.currentAccount
    = _
  rw [run_goOn]
  generalize run (accountNew setup params) console = done at creates ⊢
  obtain ⟨result, after⟩ := done
  dsimp only at creates ⊢
  cases creates with
  | unnamed none =>
    rw [named] at none
    cases none
  | refused some refused =>
    rw [named] at some
    cases some
    exact absurd accepts refused
  | created some _ _ store session =>
    rw [named] at some
    cases some
    have first : after.wallet.session.current = some 1 := by
      rw [session, Wallet.withNew, Session.accountCreated, size, if_pos ⟨unselected, rfl⟩]
    apply Wallet.currentAccount_of_selected first
    rw [store, Wallet.withNew, Store.add, empty]
    rfl

theorem reachable_sample : Reachable Sample.setup Sample.console :=
  .performed .accountNew "first" (.opened .empty ⟨"data"⟩ 1000 Sample.seeds)

theorem currentAccount_sample : Sample.console.wallet.currentAccount = .ok Sample.account :=
  currentAccount_of_first Sample.setup (by decide) (by decide +kernel) (by decide +kernel)

theorem enter_of_dispatch {typed : Typed} {command : Command} {action : ConsoleM Unit}
    (dispatched : Command.dispatch typed.line = some (command, params))
    (does : perform setup command.action params = action >>= fun _ => pure Flow.goOn) :
    console.enter setup typed =
      let done := run action { console with input := typed.answers }
      (done.1.map fun _ => Flow.goOn, done.2) := by
  rw [enter, execute, dispatched]
  dsimp only
  rw [does]
  exact run_goOn _ _

/-- A line that was to create an account and failed has changed nothing exactly if no usable name
was entered. With a usable name it was the saving that failed, and the new account stays. -/
theorem failed_creation_undone_iff {typed : Typed} {command : Command} {error : WalletError}
    (dispatched : Command.dispatch typed.line = some (command, params))
    (isNew : command.action = .accountNew)
    (failed : (console.enter setup typed).1 = .error error) :
    let after := (console.enter setup typed).2
    let entered := nameFor params { console with input := typed.answers }
    (after.wallet.store = console.wallet.store ∧ after.wallet.status = console.wallet.status ↔
        ∀ name, entered = .ok name → ¬ console.wallet.store.Accepts name) ∧
      ∀ name, entered = .ok name → console.wallet.store.Accepts name →
        error.isIo = true ∧
        after.wallet.store = console.wallet.store.add (Account.generate console.seeds.next name) ∧
        after.wallet.session =
          console.wallet.session.accountCreated (console.wallet.store.size + 1) := by
  have creates := creates_accountNew setup params { console with input := typed.answers }
  have does : perform setup command.action params =
      accountNew setup params >>= fun _ => pure Flow.goOn := by
    rw [isNew]
    rfl
  rw [enter_of_dispatch dispatched does] at failed ⊢
  generalize run (accountNew setup params) _ = done at creates failed ⊢
  obtain ⟨result, after⟩ := done
  have same : result = .error error := by
    cases result with
    | ok done => cases failed
    | error other =>
      cases failed
      rfl
  subst same
  dsimp only at creates ⊢
  cases creates with
  | unnamed none desk =>
    have wallet : after.wallet = console.wallet := congrArg Desk.wallet desk
    rw [none, wallet]
    simp
  | refused some refused desk =>
    have wallet : after.wallet = console.wallet := congrArg Desk.wallet desk
    rw [some, wallet]
    refine ⟨⟨fun _ name same => ?_, fun _ => ⟨rfl, rfl⟩⟩, fun name same accepts => ?_⟩
    · cases same
      exact refused
    · cases same
      exact absurd accepts refused
  | created some accepts outcome store session =>
    rw [some]
    refine ⟨⟨fun unchanged => ?_, fun none => absurd accepts (none _ rfl)⟩, fun name same _ => ?_⟩
    · -- A store with one account more is another store, whatever the saving came to.
      have larger := congrArg Store.size (store.symm.trans unchanged.1)
      simp [Wallet.withNew, Store.size, Store.add] at larger
    · cases same
      exact ⟨outcome.resolve_left (by simp), store, session⟩

/-- A directory stands where the accounts file is to be, so the account cannot be saved. -/
theorem unsaved_account_stays :
    let opened := Sample.opened
      ⟨[(["data"], .directory), (["data", "accounts.json"], .directory)], []⟩
    let done := opened.enter Sample.setup ⟨"account-new first", []⟩
    IoFailure done.1 ∧ opened.wallet.status = .noAccounts ∧ done.2.wallet.status = .selected 1 ∧
      done.2.wallet.store.accounts = [Sample.account] := by
  intro opened done
  have empty : opened.wallet.store.accounts = [] := by decide +kernel
  have unselected : opened.wallet.session.current = none := by decide +kernel
  have first : opened.wallet.store.size + 1 = 1 := by rw [Store.size, empty, List.length_nil]
  have dispatched : Command.dispatch (Typed.mk "account-new first" []).line =
      some (⟨"account-new", "Create a new account (key pair)", .accountNew⟩, "first") := by
    decide +kernel
  have named : nameFor "first" { opened with input := [] } = .ok "first" :=
    ok_of_toOption (by decide +kernel)
  have accepts : opened.wallet.store.Accepts "first" := by
    rw [Store.Accepts, Store.names, empty]
    decide
  obtain ⟨error, result⟩ : ∃ error, done.1 = .error error :=
    IoFailure.exists_error (by decide +kernel)
  obtain ⟨-, stays⟩ := failed_creation_undone_iff dispatched rfl result
  obtain ⟨io, store, session⟩ := stays "first" named accepts
  refine ⟨by rw [result]; exact io, by decide +kernel, ?_, ?_⟩
  · rw [Wallet.status_eq_selected_iff, session, Session.accountCreated,
      if_pos ⟨unselected, first⟩, first]
  · rw [store, Store.add, empty]
    rfl

end Console

end LedgerWallet
