import LedgerWallet.Proofs.Console.Lines
import LedgerWallet.Proofs.Console.Naming
import LedgerWallet.Proofs.Wallet.Selectors

namespace LedgerWallet

open Text

theorem Command.exists_accountSet :
    ∃ command ∈ all, command.name = "account-set" ∧ command.action = .accountSet :=
  ⟨all[1], List.getElem_mem _, rfl, rfl⟩

namespace Console

variable {setup : Setup} {console : Console} {account : Account} {name : String}

theorem run_sayChoices (position : Nat) (names : List String) (console : Console) :
    ∃ output, run (sayChoices position names) console = (.ok (), { console with output }) := by
  induction names generalizing position console with
  | nil => exact ⟨console.output, rfl⟩
  | cons name names ih =>
    rw [sayChoices, run_bind_of_ok (run_say _ _)]
    exact ih _ _

theorem Answers.run_choice? {lines rest : List ByteString} {text : String}
    (answers : Answers text lines rest) (visible : isAllBlank text = false) (console : Console) :
    ∃ output, run (choice? "") { console with input := lines } =
      (.ok (if trim text = "0" then none else some (trim text)),
        { console with input := rest, output }) := by
  rw [choice?, if_pos rfl, run_bind_of_ok (run_say _ _), run_get_bind]
  obtain ⟨listed, said⟩ := run_sayChoices 1 console.wallet.store.names { console with
    input := lines
    output := console.output ++ ("> " ++ "Choose an account to load:" ++ "\n") }
  rw [run_bind_of_ok said]
  obtain ⟨output, answered⟩ := answers.run_ask visible "Enter a number or alias (0 for none)"
    { console with output := listed }
  rw [run_bind_of_ok answered]
  split
  · rw [run_bind_of_ok (run_say _ _)]
    exact ⟨_, rfl⟩
  · exact ⟨output, rfl⟩

theorem choice?_typed {rest : List ByteString} (typed : IsTypedName name)
    (input : console.input = Utf8.encode (name ++ "\n") :: rest) :
    ∃ output, run (choice? "") console =
      (.ok (if name = "0" then none else some name), { console with input := rest, output }) := by
  obtain ⟨some, trimmed⟩ := typed
  have visible : isAllBlank name = false := by
    rw [← Bool.not_eq_true, ← trim_eq_empty_iff, trimmed]
    exact some
  have answers : Answers name console.input rest := ⟨[], _, by simp, Or.inr rfl, input⟩
  have chosen := answers.run_choice? visible console
  rw [trimmed] at chosen
  exact chosen

def Chooses (setup : Setup) (console : Console) (typed : Typed) (account : Account) : Prop :=
  (console.enter setup typed).1 = .ok .goOn ∧
    (console.enter setup typed).2.wallet.store = console.wallet.store ∧
    (console.enter setup typed).2.wallet.currentAccount = .ok account

theorem enter_accountSet (typed : Typed) {command : Command} {params : String}
    (dispatched : Command.dispatch typed.line = some (command, params))
    (isSet : command.action = .accountSet) :
    console.enter setup typed =
      let done := run (accountSet setup params) { console with input := typed.answers }
      (done.1.map fun _ => Flow.goOn, done.2) :=
  enter_of_dispatch dispatched (by rw [isSet]; rfl)

theorem not_isEmpty_of_mem {store : Store} (member : account ∈ store.accounts) :
    ¬ store.isEmpty = true := by
  rw [Store.isEmpty, List.isEmpty_iff]
  exact List.ne_nil_of_mem member

theorem run_accountSet_of_choice (setup : Setup) (console : Console) {params : String}
    {next : Console} {position : Nat} (distinct : console.wallet.store.names.Nodup)
    (found : console.wallet.store.get position = .ok account)
    (trimmed : trim account.name = account.name)
    (chosen : run (choice? params) console = (.ok (some account.name), next))
    (same : next.wallet = console.wallet) :
    ∃ output, run (accountSet setup params) console =
      (.ok (), { next with
        wallet := { console.wallet with session := ⟨some position⟩ }, output }) := by
  have selected : run (selectAccount (Selector.parse account.name)) next =
      (.ok account, { next with
        wallet := { console.wallet with session := ⟨some position⟩ } }) := by
    have located := Session.locate_of_name distinct found rfl
    rw [run_selectAccount, same, Selector.parse, trimmed, Wallet.select_of_locate located found]
  rw [accountSet, run_get_bind, if_neg (not_isEmpty_of_mem (Store.mem_of_get found)),
    run_bind_of_ok chosen]
  dsimp only
  rw [run_bind_of_ok selected]
  exact ⟨_, run_say _ _⟩

theorem chooses_of_choice {typed : Typed} {command : Command} {params : String} {next : Console}
    (distinct : console.wallet.store.names.Nodup) (member : account ∈ console.wallet.store.accounts)
    (trimmed : trim account.name = account.name)
    (dispatched : Command.dispatch typed.line = some (command, params))
    (isSet : command.action = .accountSet)
    (chosen : run (choice? params) { console with input := typed.answers } =
      (.ok (some account.name), next))
    (same : next.wallet = console.wallet) : console.Chooses setup typed account := by
  obtain ⟨index, there⟩ := List.getElem?_of_mem member
  have found : console.wallet.store.get (index + 1) = .ok account :=
    Store.get_eq_ok_iff.2 ⟨index, rfl, there⟩
  obtain ⟨output, done⟩ :=
    run_accountSet_of_choice setup { console with input := typed.answers } distinct found trimmed
      chosen same
  unfold Chooses
  rw [enter_accountSet typed dispatched isSet, done]
  exact ⟨rfl, rfl, Wallet.currentAccount_of_selected rfl found⟩

theorem chooses_by_name (setup : Setup) (distinct : console.wallet.store.names.Nodup)
    (member : account ∈ console.wallet.store.accounts) (typed : IsTypedName account.name)
    (answers : List ByteString) :
    console.Chooses setup ⟨"account-set " ++ account.name, answers⟩ account := by
  obtain ⟨visible, trimmed⟩ := typed
  have chosen : run (choice? account.name) { console with input := answers } =
      (.ok (some account.name), { console with input := answers }) := by
    rw [choice?, if_neg visible]
    rfl
  obtain ⟨command, known, name, isSet⟩ := Command.exists_accountSet
  have dispatched := Command.dispatch_name_append known account.name
  rw [name, trimmed] at dispatched
  exact chooses_of_choice distinct member trimmed dispatched isSet chosen rfl

theorem choice_at_prompt (setup : Setup) (distinct : console.wallet.store.names.Nodup)
    (member : account ∈ console.wallet.store.accounts) (typed : IsTypedName account.name)
    (unbroken : '\n' ∉ account.name.toList) (more : ByteString) :
    let asked : Typed := ⟨"account-set", splitLines (Utf8.encode (account.name ++ "\n") ++ more)⟩
    if account.name = "0" then
      (console.enter setup asked).1 = .ok .goOn ∧
        (console.enter setup asked).2.wallet = console.wallet
    else console.Chooses setup asked account := by
  intro asked
  obtain ⟨output, chosen⟩ : ∃ output, run (choice? "") { console with input := asked.answers } =
      (.ok (if account.name = "0" then none else some account.name),
        { console with input := splitLines more, output }) :=
    choice?_typed typed (splitLines_typed unbroken more)
  obtain ⟨command, known, name, isSet⟩ := Command.exists_accountSet
  have dispatched := Command.dispatch_name known
  rw [name] at dispatched
  split
  · rename_i zero
    rw [if_pos zero] at chosen
    have done : run (accountSet setup "") { console with input := asked.answers } =
        (.ok (), { console with input := splitLines more, output }) := by
      rw [accountSet, run_get_bind, if_neg (not_isEmpty_of_mem member), run_bind_of_ok chosen]
      rfl
    rw [enter_accountSet asked dispatched isSet, done]
    exact ⟨rfl, rfl⟩
  · rename_i other
    rw [if_neg other] at chosen
    exact chooses_of_choice distinct member typed.2 dispatched isSet chosen rfl

/-- Every account that a line of a session creates can be chosen by its name at any later point of
the session, whatever other accounts there are: as a parameter, and at the prompt unless the name
is `0`, which chooses none there. -/
theorem created_account_chosen_by_name (setup : Setup) (files : FileTree) (directory : Path)
    (patience : Nat) (seeds : Seeds) (earlier : List Typed) (creating : Typed)
    (later : List Typed) :
    let opened : Console := ⟨(Wallet.openIn files directory patience).1, files, seeds, [], [], ""⟩
    let before := (opened.enterAll setup earlier).2
    let created := (before.enter setup creating).2
    let console := (created.enterAll setup later).2
    ∀ account ∈ created.wallet.store.accounts, account ∉ before.wallet.store.accounts →
      (∀ answers, console.Chooses setup ⟨"account-set " ++ account.name, answers⟩ account) ∧
      ∀ more : ByteString, '\n' ∉ account.name.toList →
        let asked : Typed :=
          ⟨"account-set", splitLines (Utf8.encode (account.name ++ "\n") ++ more)⟩
        if account.name = "0" then
          (console.enter setup asked).1 = .ok .goOn ∧
            (console.enter setup asked).2.wallet = console.wallet
        else console.Chooses setup asked account := by
  intro opened before created console account member new
  have typed : IsTypedName account.name :=
    (names_execute setup creating.line _ account member).resolve_left new
  have stays : account ∈ console.wallet.store.accounts :=
    (advances_enterAll setup created later).accounts.subset member
  have beforeSound : before.wallet.store.Sound :=
    sound_enterAll (Wallet.sound_openIn files directory patience) earlier
  have sound : console.wallet.store.Sound :=
    sound_enterAll (sound_enterAll beforeSound [creating]) later
  exact ⟨chooses_by_name setup sound.distinct stays typed, fun more unbroken =>
    choice_at_prompt setup sound.distinct stays typed unbroken more⟩

theorem exists_new_of_names {before after : Store} (free : name ∉ before.names)
    (taken : name ∈ after.names) :
    ∃ account ∈ after.accounts, account ∉ before.accounts ∧ account.name = name := by
  obtain ⟨account, member, rfl⟩ := List.mem_map.1 taken
  exact ⟨account, member, fun old => free (List.mem_map_of_mem old), rfl⟩

/-- The second account is called `1`, which is also the position of the first. -/
theorem number_chosen_as_name :
    let before := ((Sample.opened .empty).enterAll Sample.setup [⟨"account-new first", []⟩]).2
    let created := (before.enter Sample.setup ⟨"account-new 1", []⟩).2
    let console := (created.enterAll Sample.setup [⟨"account-set first", []⟩]).2
    ∃ account ∈ created.wallet.store.accounts, account ∉ before.wallet.store.accounts ∧
      account.name = "1" ∧ console.Chooses Sample.setup ⟨"account-set 1", []⟩ account ∧
      console.Chooses Sample.setup ⟨"account-set", splitLines (Utf8.encode "1\n")⟩ account := by
  intro before created console
  have free : "1" ∉ before.wallet.store.names := by decide +kernel
  have taken : "1" ∈ created.wallet.store.names := by decide +kernel
  obtain ⟨account, member, new, named⟩ := exists_new_of_names free taken
  refine ⟨account, member, new, named, ?_⟩
  dsimp only [before, created, console] at member new ⊢
  obtain ⟨byName, atPrompt⟩ := created_account_chosen_by_name Sample.setup .empty ⟨"data"⟩
    1000 Sample.seeds [⟨"account-new first", []⟩] ⟨"account-new 1", []⟩ [⟨"account-set first", []⟩]
    account member new
  rw [named] at byName atPrompt
  have answered := atPrompt [] (by decide)
  rw [if_neg (by decide), List.append_nil] at answered
  exact ⟨byName [], answered⟩

/-- The account `0` is not chosen when its name is typed at the prompt. -/
theorem zero_not_chosen_at_prompt :
    let before := ((Sample.opened .empty).enterAll Sample.setup [⟨"account-new first", []⟩]).2
    let console := (before.enter Sample.setup ⟨"account-new 0", []⟩).2
    ∃ account ∈ console.wallet.store.accounts, account ∉ before.wallet.store.accounts ∧
      account.name = "0" ∧
      ¬ console.Chooses Sample.setup ⟨"account-set", splitLines (Utf8.encode "0\n")⟩ account := by
  intro before console
  have free : "0" ∉ before.wallet.store.names := by decide +kernel
  have taken : "0" ∈ console.wallet.store.names := by decide +kernel
  obtain ⟨account, member, new, named⟩ := exists_new_of_names free taken
  refine ⟨account, member, new, named, fun chosen => ?_⟩
  have current : (console.enter Sample.setup ⟨"account-set",
      splitLines (Utf8.encode "0\n")⟩).2.wallet.currentAccount.toOption.map Account.name =
    some "first" := by decide +kernel
  rw [chosen.2.2] at current
  have same : account.name = "first" := Option.some.inj current
  rw [named] at same
  exact absurd same (by decide)

end Console

end LedgerWallet
