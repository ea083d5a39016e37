import LedgerWallet.Proofs.Console.Choosing
import LedgerWallet.Proofs.Console.Isolation

namespace LedgerWallet

open Text

def Action.withText : List Action :=
  [.accountNew, .accountSet, .accountSign, .accountTextSign, .stateAccount, .statusTx]

namespace Console

variable {α β : Type} {setup : Setup} {effects : List Effect} {console : Console}
  {text question : String} {lines rest : List ByteString} {account : Account}

def held (console : Console) : Desk × List ByteString :=
  (console.desk, console.input)

theorem held_eq_iff {console console' : Console} :
    console.held = console'.held ↔ seen id console = seen id console' := by
  simp only [held, desk, seen, own, id, Prod.mk.injEq, Desk.mk.injEq]
  tauto

theorem Confined.alikeIn_held {action : ConsoleM α} (h : Confined setup effects action) :
    AlikeIn held action action := by
  intro console console' same
  obtain ⟨result, next⟩ :=
    h.alikeIn id (fun _ => Function.injective_id) console console' (held_eq_iff.1 same)
  exact ⟨result, held_eq_iff.2 next⟩

theorem paramsOr_forms (answers : Answers text lines rest) (visible : isAllBlank text = false)
    (question : String) (console : Console) :
    SameIn held (run (paramsOr "" question) { console with input := lines })
      (run (paramsOr (trim text) question) { console with input := rest }) := by
  have some : trim text ≠ "" := by
    rw [Ne, trim_eq_empty_iff, visible]
    exact Bool.false_ne_true
  obtain ⟨output, asked⟩ := answers.run_ask visible question console
  rw [paramsOr, paramsOr, if_pos rfl, if_neg some, asked]
  exact ⟨rfl, rfl⟩

theorem choice?_forms (answers : Answers text lines rest) (visible : isAllBlank text = false)
    (other : trim text ≠ "0") (console : Console) :
    SameIn held (run (choice? "") { console with input := lines })
      (run (choice? (trim text)) { console with input := rest }) := by
  have some : trim text ≠ "" := by
    rw [Ne, trim_eq_empty_iff, visible]
    exact Bool.false_ne_true
  obtain ⟨output, asked⟩ := answers.run_choice? visible console
  rw [if_neg other] at asked
  rw [asked, choice?, if_neg some]
  exact ⟨rfl, rfl⟩

def TakesEither (console : Console) (command : String → ConsoleM Unit) (text : String) : Prop :=
  ∀ lines rest, Answers text lines rest →
    SameIn held (run (command "") { console with input := lines })
      (run (command (trim text)) { console with input := rest })

theorem accountNew_forms (setup : Setup) (console : Console) (visible : isAllBlank text = false) :
    TakesEither console (accountNew setup) text := by
  intro lines rest answers
  let said := { console with output := console.output ++ ("> " ++ "Create a new account" ++ "\n") }
  have later : ∀ name, Confined setup Effect.all
      (createAccount name >>= fun account => persist >>= fun _ =>
        say ("Created account: " ++ Text.Style.green.paint setup.isColored account.name ++
          ", address: " ++ account.address.text)) :=
    fun name => .record (by decide) name fun account => confined_say _
  rw [accountNew, accountNew, run_bind_of_ok (run_say _ _), run_bind_of_ok (run_say _ _)]
  exact sameIn_bind (paramsOr_forms answers visible _ said) fun name => (later name).alikeIn_held

theorem currentOrChosen_forms (current : console.wallet.currentAccount = .ok account)
    {action action' : Account → ConsoleM Unit}
    (same : SameIn held (run (action account) { console with input := lines })
      (run (action' account) { console with input := rest })) :
    SameIn held (run (currentOrChosen setup >>= action) { console with input := lines })
      (run (currentOrChosen setup >>= action') { console with input := rest }) := by
  have here : run (currentOrChosen setup) { console with input := lines } = (.ok account, _) :=
    run_currentOrChosen_of_current setup current
  have there : run (currentOrChosen setup) { console with input := rest } = (.ok account, _) :=
    run_currentOrChosen_of_current setup current
  rw [run_bind_of_ok here, run_bind_of_ok there]
  exact same

theorem accountSign_forms (setup : Setup) (current : console.wallet.currentAccount = .ok account)
    (visible : isAllBlank text = false) : TakesEither console (accountSign setup) text := by
  intro lines rest answers
  refine currentOrChosen_forms current (sameIn_bind (paramsOr_forms answers visible _ console) ?_)
  intro text
  refine Confined.alikeIn_held (?_ : Confined setup [] _)
  exact .bind (.lift _) fun message => .bind (confined_sign message) fun _ => confined_say _

theorem accountTextSign_forms (setup : Setup)
    (current : console.wallet.currentAccount = .ok account) (visible : isAllBlank text = false) :
    TakesEither console (accountTextSign setup) text := by
  intro lines rest answers
  refine currentOrChosen_forms current (sameIn_bind (paramsOr_forms answers visible _ console) ?_)
  intro text
  refine Confined.alikeIn_held (?_ : Confined setup [] _)
  exact .bind (confined_sign _) fun _ => confined_say _

theorem stateAccount_forms (setup : Setup) (console : Console)
    (visible : isAllBlank text = false) : TakesEither console (stateAccount setup) text := by
  intro lines rest answers
  refine sameIn_bind (paramsOr_forms answers visible _ console) fun text => ?_
  refine Confined.alikeIn_held (?_ : Confined setup Effect.all _)
  exact .bind (.lift _) fun address => confined_sayStateOf (by decide) address

theorem statusTx_forms (setup : Setup) (console : Console) (visible : isAllBlank text = false) :
    TakesEither console (statusTx setup) text := by
  intro lines rest answers
  refine sameIn_bind (paramsOr_forms answers visible _ console) fun text => ?_
  refine Confined.alikeIn_held (?_ : Confined setup Effect.all _)
  exact .bind (.lift _) fun id => confined_sayTransaction (by decide) id

theorem accountSet_forms (setup : Setup) (filled : ¬ console.wallet.store.isEmpty = true)
    (visible : isAllBlank text = false) (other : trim text ≠ "0") :
    TakesEither console (accountSet setup) text := by
  intro lines rest answers
  rw [accountSet, accountSet, run_get_bind, run_get_bind, if_neg filled, if_neg filled]
  refine sameIn_bind (choice?_forms answers visible other console) fun choice => ?_
  refine Confined.alikeIn_held (?_ : Confined setup Effect.all _)
  cases choice with
  | none => exact .pure ()
  | some choice => exact .bind (.select (by decide) _) fun _ => confined_say _

theorem sendText_congr {text' : String} (same : words text = words text') :
    sendText setup account text = sendText setup account text' := by
  unfold sendText TransferRequest.parse
  rw [same]

theorem run_transferText_of_answers {recipient amount : String} {between : List ByteString}
    (visible : isAllBlank recipient = false) (visible' : isAllBlank amount = false)
    (first : Answers recipient lines between) (second : Answers amount between rest)
    (console : Console) :
    ∃ output, run (transferText "") { console with input := lines } =
      (.ok (trim recipient ++ " " ++ trim amount), { console with input := rest, output }) := by
  obtain ⟨printed, asked⟩ := first.run_ask visible "Enter recipient address" console
  obtain ⟨output, asked'⟩ := second.run_ask visible' "Enter amount to transfer in Smidge"
    { console with output := printed }
  exact ⟨output, transferText_of_answers asked asked'⟩

theorem run_transferText_of_params (some : text ≠ "") (console : Console) :
    run (transferText text) console = (.ok text, console) := by
  rw [transferText, if_neg some]
  rfl

theorem accountSendCoin_forms (setup : Setup) {recipient amount : String}
    {between : List ByteString} (current : console.wallet.currentAccount = .ok account)
    (visible : isAllBlank recipient = false) (visible' : isAllBlank amount = false)
    (first : Answers recipient lines between) (second : Answers amount between rest) :
    SameIn held (run (accountSendCoin setup "") { console with input := lines })
      (run (accountSendCoin setup (trim (recipient ++ " " ++ amount)))
        { console with input := rest }) := by
  have sameWords : words (trim recipient ++ " " ++ trim amount) =
      words (trim (recipient ++ " " ++ amount)) := by
    rw [words_append_space, words_trim, words_trim, words_trim, words_append_space]
  have some : trim (recipient ++ " " ++ amount) ≠ "" := by
    rw [Ne, trim_eq_empty_iff, isAllBlank, String.toList_append, String.toList_append,
      List.all_append, List.all_append]
    rw [isAllBlank] at visible
    simp [visible]
  have sending : Confined setup Effect.all
      (sendText setup account (trim (recipient ++ " " ++ amount))) :=
    confined_sendText (by decide) account _
  obtain ⟨output, entered⟩ := run_transferText_of_answers visible visible' first second console
  refine currentOrChosen_forms current ?_
  rw [run_bind_of_ok entered, run_bind_of_ok (run_transferText_of_params some _),
    sendText_congr sameWords]
  exact sending.alikeIn_held { console with input := rest, output }
    { console with input := rest } rfl

theorem execute_forms {command : Command} {bare full params : String}
    {action : String → ConsoleM Unit}
    (does : ∀ params, perform setup command.action params = action params >>= fun _ => pure .goOn)
    (short : Command.dispatch bare = some (command, ""))
    (long : Command.dispatch full = some (command, params))
    (same : SameIn held (run (action "") { console with input := lines })
      (run (action params) { console with input := rest })) :
    SameIn held (run (execute setup bare) { console with input := lines })
      (run (execute setup full) { console with input := rest }) := by
  rw [execute, execute, short, long]
  dsimp only
  rw [does, does]
  exact sameIn_bind same fun _ _ _ same => ⟨rfl, same⟩

/-- In a console with a current account a command that prompts for its parameters does what it does
with the same texts behind its name, printing apart. A zero at the prompt for an account is the one
text that means something else there. -/
theorem prompted_form_agrees (setup : Setup) (console : Console) (account : Account)
    (current : console.wallet.currentAccount = .ok account) :
    (∀ command bare full text lines rest, command.action ∈ Action.withText →
      Command.dispatch bare = some (command, "") →
      Command.dispatch full = some (command, trim text) →
      isAllBlank text = false → (command.action = .accountSet → trim text ≠ "0") →
      Answers text lines rest →
      SameIn held (run (execute setup bare) { console with input := lines })
        (run (execute setup full) { console with input := rest })) ∧
    ∀ command bare full recipient amount lines between rest, command.action = .accountSendCoin →
      Command.dispatch bare = some (command, "") →
      Command.dispatch full = some (command, trim (recipient ++ " " ++ amount)) →
      isAllBlank recipient = false → isAllBlank amount = false →
      Answers recipient lines between → Answers amount between rest →
      SameIn held (run (execute setup bare) { console with input := lines })
        (run (execute setup full) { console with input := rest }) := by
  constructor
  · rintro ⟨name, description, action⟩ bare full text lines rest takes short long visible other
      answers
    cases action with
    | accountNew =>
      exact execute_forms (fun _ => rfl) short long
        (accountNew_forms setup console visible lines rest answers)
    | accountSet =>
      have filled := not_isEmpty_of_mem (Wallet.mem_of_currentAccount current)
      exact execute_forms (fun _ => rfl) short long
        (accountSet_forms setup filled visible (other rfl) lines rest answers)
    | accountSign =>
      exact execute_forms (fun _ => rfl) short long
        (accountSign_forms setup current visible lines rest answers)
    | accountTextSign =>
      exact execute_forms (fun _ => rfl) short long
        (accountTextSign_forms setup current visible lines rest answers)
    | stateAccount =>
      exact execute_forms (fun _ => rfl) short long
        (stateAccount_forms setup console visible lines rest answers)
    | statusTx =>
      exact execute_forms (fun _ => rfl) short long
        (statusTx_forms setup console visible lines rest answers)
    | accountList | accountInfo | accountSendCoin | help | quit =>
      exact absurd takes (by simp [Action.withText])
  · rintro ⟨name, description, action⟩ bare full recipient amount lines between rest takes short
      long visible visible' first second
    obtain rfl : action = .accountSendCoin := takes
    exact execute_forms (fun _ => rfl) short long
      (accountSendCoin_forms setup current visible visible' first second)

/-- Blank lines before the answers change nothing. -/
theorem prompted_form_agrees_with_first_account :
    let rest := [Utf8.encode "quit\n"]
    SameIn held
        (run (execute Sample.setup "account-new")
          { Sample.console with input := Utf8.encode " \n" :: Utf8.encode " second \n" :: rest })
        (run (execute Sample.setup "account-new second") { Sample.console with input := rest }) ∧
      SameIn held
        (run (execute Sample.setup "account-send-coin")
          { Sample.console with
            input := Utf8.encode "0x42\n" :: Utf8.encode "\n" :: Utf8.encode "7" :: rest })
        (run (execute Sample.setup "account-send-coin 0x42 7")
          { Sample.console with input := rest }) := by
  intro rest
  obtain ⟨one, two⟩ := prompted_form_agrees Sample.setup _ _ currentAccount_sample
  constructor
  · refine one ⟨"account-new", "Create a new account (key pair)", .accountNew⟩ _ _ " second " _ _
      (by decide) (by decide +kernel) (by decide +kernel) (by decide) (by decide) ?_
    exact ⟨[_], _, by simpa using ⟨" ", by decide, Or.inr rfl⟩, Or.inr rfl, rfl⟩
  · refine two ⟨"account-send-coin", "Transfer coins from current account to another account",
      .accountSendCoin⟩ _ _ "0x42" "7" _ (Utf8.encode "\n" :: Utf8.encode "7" :: rest) _ rfl
      (by decide +kernel) (by decide +kernel) (by decide) (by decide) ?_ ?_
    · exact ⟨[], _, by simp, Or.inr rfl, rfl⟩
    · exact ⟨[_], _, by simpa using ⟨"", by decide, Or.inr rfl⟩, Or.inl rfl, rfl⟩

end Console

end LedgerWallet
