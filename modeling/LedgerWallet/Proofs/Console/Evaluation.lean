import LedgerWallet.Console.Commands

namespace LedgerWallet.Console

variable {α β : Type} {console next : Console} {error : WalletError}

theorem run_bind (action : ConsoleM α) (rest : α → ConsoleM β) (console : Console) :
    run (action >>= rest) console =
      match run action console with
      | (.ok a, next) => run (rest a) next
      | (.error error, next) => (.error error, next) := by
  change (ExceptT.bindCont rest (action console).1 : StateM Console _) (action console).2 = _
  unfold run
  cases action console with
  | mk result next => cases result <;> rfl

theorem run_bind_of_ok {action : ConsoleM α} {rest : α → ConsoleM β} {a : α}
    (h : run action console = (.ok a, next)) : run (action >>= rest) console = run (rest a) next := by
  rw [run_bind, h]

theorem run_bind_of_error {action : ConsoleM α} {rest : α → ConsoleM β}
    (h : run action console = (.error error, next)) :
    run (action >>= rest) console = (.error error, next) := by
  rw [run_bind, h]

theorem run_goOn (action : ConsoleM Unit) (console : Console) :
    run (action >>= fun _ => pure Flow.goOn) console =
      ((run action console).1.map fun _ => Flow.goOn, (run action console).2) := by
  rw [run_bind]
  cases run action console with
  | mk result next => cases result <;> rfl

theorem across_bind {R : Console → Console → Prop} (trans : ∀ {a b c}, R a b → R b c → R a c)
    {action : ConsoleM α} {rest : α → ConsoleM β}
    (first : ∀ console, R console (run action console).2)
    (later : ∀ a console, R console (run (rest a) console).2) (console : Console) :
    R console (run (action >>= rest) console).2 := by
  have before := first console
  rw [run_bind]
  cases done : run action console with
  | mk result next =>
    rw [done] at before
    cases result with
    | error error => exact before
    | ok a => exact trans before (later a next)

def SameIn {γ : Type} (view : Console → γ) (ended ended' : Except WalletError α × Console) : Prop :=
  ended.1 = ended'.1 ∧ view ended.2 = view ended'.2

def AlikeIn {γ : Type} (view : Console → γ) (action action' : ConsoleM α) : Prop :=
  ∀ console console', view console = view console' →
    SameIn view (run action console) (run action' console')

theorem sameIn_bind {γ : Type} {view : Console → γ} {action action' : ConsoleM α}
    {rest rest' : α → ConsoleM β} {console console' : Console}
    (first : SameIn view (run action console) (run action' console'))
    (later : ∀ a, AlikeIn view (rest a) (rest' a)) :
    SameIn view (run (action >>= rest) console) (run (action' >>= rest') console') := by
  rw [run_bind, run_bind]
  revert first
  generalize run action console = ended
  generalize run action' console' = ended'
  obtain ⟨result, next⟩ := ended
  obtain ⟨result', next'⟩ := ended'
  rintro ⟨rfl, same⟩
  cases result with
  | error error => exact ⟨rfl, same⟩
  | ok a => exact later a next next' same

theorem alikeIn_bind {γ : Type} {view : Console → γ} {action action' : ConsoleM α}
    {rest rest' : α → ConsoleM β} (first : AlikeIn view action action')
    (later : ∀ a, AlikeIn view (rest a) (rest' a)) :
    AlikeIn view (action >>= rest) (action' >>= rest') :=
  fun console console' same => sameIn_bind (first console console' same) later

theorem run_get_bind (rest : Console → ConsoleM β) (console : Console) :
    run (get >>= rest) console = run (rest console) console := rfl

theorem run_set_bind (rest : PUnit → ConsoleM β) (next console : Console) :
    run (set next >>= rest) console = run (rest ⟨⟩) next := rfl

theorem run_lift (result : Except WalletError α) (console : Console) :
    run (liftM result) console = (result, console) := by
  cases result <;> rfl

theorem run_attempt (action : ConsoleM α) (console : Console) :
    run (attempt action) console = (.ok (run action console).1, (run action console).2) := rfl

theorem run_say (text : String) (console : Console) :
    run (say text) console =
      (.ok (), { console with output := console.output ++ ("> " ++ text ++ "\n") }) := rfl

theorem run_ask (question : String) (console : Console) :
    run (ask question) console =
      let answer := firstAnswer ("> " ++ question ++ ": ") console.input console.output
      (answer.1, { console with input := answer.2.1, output := answer.2.2 }) := rfl

theorem run_paramsOr_of_given {params : String} (given : params ≠ "") (question : String)
    (console : Console) : run (paramsOr params question) console = (.ok params, console) := by
  rw [paramsOr, if_neg given]
  rfl

theorem firstAnswer_output (prompt : String) (lines : List ByteString) (output output' : String) :
    (firstAnswer prompt lines output).1 = (firstAnswer prompt lines output').1 ∧
      (firstAnswer prompt lines output).2.1 = (firstAnswer prompt lines output').2.1 := by
  induction lines generalizing output output' with
  | nil => exact ⟨rfl, rfl⟩
  | cons line rest ih =>
    unfold firstAnswer
    cases textOfLine line with
    | error error => exact ⟨rfl, rfl⟩
    | ok text =>
      dsimp only
      split
      · exact ih _ _
      · exact ⟨rfl, rfl⟩

theorem firstAnswer_printed (prompt : String) (lines : List ByteString) (output : String) :
    ∃ more, (firstAnswer prompt lines output).2.2 = output ++ more := by
  induction lines generalizing output with
  | nil => exact ⟨prompt, rfl⟩
  | cons line rest ih =>
    unfold firstAnswer
    cases textOfLine line with
    | error error => exact ⟨prompt, rfl⟩
    | ok text =>
      dsimp only
      split
      · obtain ⟨more, printed⟩ := ih (output ++ prompt)
        exact ⟨prompt ++ more, printed.trans String.append_assoc⟩
      · exact ⟨prompt, rfl⟩

theorem run_currentAccount (console : Console) :
    run currentAccount console = (console.wallet.currentAccount, console) := by
  unfold currentAccount
  rw [run_get_bind, run_lift]

theorem run_sign (message : ByteString) (console : Console) :
    run (sign message) console = (console.wallet.sign message, console) := by
  unfold sign
  rw [run_get_bind, run_lift]

theorem run_createAccount (name : String) (console : Console) :
    run (createAccount name) console =
      match console.wallet.create console.seeds name with
      | .ok (account, wallet, seeds) => (.ok account, { console with wallet, seeds })
      | .error error => (.error error, console) := by
  unfold createAccount
  rw [run_get_bind, run_bind, run_lift]
  cases console.wallet.create console.seeds name with
  | error error => rfl
  | ok made => rfl

theorem run_selectAccount (selector : Selector) (console : Console) :
    run (selectAccount selector) console =
      match console.wallet.select selector with
      | .ok (account, wallet) => (.ok account, { console with wallet })
      | .error error => (.error error, console) := by
  unfold selectAccount
  rw [run_get_bind, run_bind, run_lift]
  cases console.wallet.select selector with
  | error error => rfl
  | ok found => rfl

theorem run_persist (console : Console) :
    run persist console = ((console.wallet.persist console.files).1, { console with
      wallet := (console.wallet.persist console.files).2.1
      files := (console.wallet.persist console.files).2.2 }) := by
  unfold persist
  rw [run_get_bind]
  cases console.wallet.persist console.files with
  | mk result changed =>
    dsimp only
    rw [run_set_bind, run_lift]

theorem run_readLine (console : Console) :
    run readLine console =
      match console.input with
      | [] => (.ok none, console)
      | line :: rest => ((textOfLine line).map some, { console with input := rest }) := by
  unfold readLine
  rw [run_get_bind]
  cases console.input with
  | nil => rfl
  | cons line rest =>
    dsimp only
    change run (liftM (textOfLine line) >>= fun text => pure (some text)) _ = _
    rw [run_bind, run_lift]
    cases textOfLine line <;> rfl

variable (setup : Setup)

theorem run_accountState (address : Address) (console : Console) :
    run (accountState setup address) console =
      ((console.wallet.accountState setup.node console.calls address).1, { console with
        calls := (console.wallet.accountState setup.node console.calls address).2 }) := by
  unfold accountState
  rw [run_get_bind]
  cases console.wallet.accountState setup.node console.calls address with
  | mk result calls =>
    dsimp only
    rw [run_set_bind, run_lift]

theorem run_transactionState (id : TransactionId) (console : Console) :
    run (transactionState setup id) console =
      ((console.wallet.transactionState setup.node console.calls id).1, { console with
        calls := (console.wallet.transactionState setup.node console.calls id).2 }) := by
  unfold transactionState
  rw [run_get_bind]
  cases console.wallet.transactionState setup.node console.calls id with
  | mk result calls =>
    dsimp only
    rw [run_set_bind, run_lift]

theorem run_submit (transfer : Transfer) (console : Console) :
    run (submit setup transfer) console =
      ((console.wallet.submit setup.node console.calls transfer).1, { console with
        calls := (console.wallet.submit setup.node console.calls transfer).2 }) := by
  unfold submit
  rw [run_get_bind]
  cases console.wallet.submit setup.node console.calls transfer with
  | mk result calls =>
    dsimp only
    rw [run_set_bind, run_lift]

def afterLine (count : Nat) (line : String) : ConsoleM Bool := do
  match ← executeAndReport setup line with
  | .quit => return true
  | .goOn => loop setup count

theorem run_loop_of_line {line : ByteString} {rest : List ByteString} {text : String}
    (input : console.input = line :: rest) (read : textOfLine line = .ok text) (count : Nat) :
    run (loop setup (count + 1)) console =
      run (if text = "" then loop setup count else afterLine setup count text)
        { console with input := rest, output := console.output ++ "$ " } := by
  have prompt : run (write "$ ") console =
      (.ok (), { console with output := console.output ++ "$ " }) := rfl
  have taken : run readLine { console with output := console.output ++ "$ " } =
      (.ok (some text), { console with input := rest, output := console.output ++ "$ " }) := by
    rw [run_readLine]
    simp only [input, read]
    rfl
  rw [loop, run_bind_of_ok prompt, run_bind_of_ok taken]
  rfl

theorem run_currentOrChosen_of_current {account : Account}
    (h : console.wallet.currentAccount = .ok account) :
    run (currentOrChosen setup) console = (.ok account, console) := by
  have found : run (attempt currentAccount) console = (.ok (.ok account), console) := by
    rw [run_attempt, run_currentAccount, h]
  unfold currentOrChosen
  rw [run_bind_of_ok found]
  rfl

end LedgerWallet.Console
