import LedgerWallet.Console.Commands

namespace LedgerWallet.Console

inductive Effect where
  | input
  | account
  | selection
  | question
  deriving DecidableEq

def Effect.all : List Effect := [input, account, selection, question]

/-- The action is put together from single actions with these effects only. An account is never
created without saving the accounts next. -/
inductive Confined (setup : Setup) (effects : List Effect) : {α : Type} → ConsoleM α → Prop
  | pure {α : Type} (a : α) : Confined setup effects (pure a)
  | lift {α : Type} (result : Except WalletError α) : Confined setup effects (liftM result)
  | write (text : String) : Confined setup effects (write text)
  | current : Confined setup effects (attempt currentAccount)
  | look {α : Type} {rest : Console → ConsoleM α}
      (same : ∀ console console', console.wallet = console'.wallet → rest console = rest console')
      (later : ∀ console, Confined setup effects (rest console)) :
      Confined setup effects (get >>= rest)
  | bind {α β : Type} {action : ConsoleM α} {rest : α → ConsoleM β}
      (first : Confined setup effects action) (later : ∀ a, Confined setup effects (rest a)) :
      Confined setup effects (action >>= rest)
  | ask (allowed : .input ∈ effects) (question : String) : Confined setup effects (ask question)
  | record {α : Type} {rest : Account → ConsoleM α} (allowed : .account ∈ effects) (name : String)
      (later : ∀ account, Confined setup effects (rest account)) :
      Confined setup effects
        (createAccount name >>= fun account => persist >>= fun _ => rest account)
  | select (allowed : .selection ∈ effects) (selector : Selector) :
      Confined setup effects (selectAccount selector)
  | accountState (allowed : .question ∈ effects) (address : Address) :
      Confined setup effects (accountState setup address)
  | transactionState (allowed : .question ∈ effects) (id : TransactionId) :
      Confined setup effects (transactionState setup id)
  | submit (allowed : .question ∈ effects) (transfer : Transfer) :
      Confined setup effects (submit setup transfer)

variable {setup : Setup} {effects : List Effect}

theorem confined_say (text : String) : Confined setup effects (say text) := .write _

theorem confined_paramsOr (reads : .input ∈ effects) (params question : String) :
    Confined setup effects (paramsOr params question) := by
  unfold paramsOr
  split
  · exact .ask reads question
  · exact .pure params

theorem confined_currentAccount : Confined setup effects currentAccount := by
  apply Confined.look
  · intro console console' same
    rw [same]
  · exact fun console => .lift _

theorem confined_sign (message : ByteString) : Confined setup effects (sign message) := by
  apply Confined.look
  · intro console console' same
    rw [same]
  · exact fun console => .lift _

theorem confined_sayChoices (position : Nat) (names : List String) :
    Confined setup effects (sayChoices position names) := by
  induction names generalizing position with
  | nil => exact .pure ()
  | cons name names ih => exact .bind (confined_say _) fun _ => ih _

theorem confined_choice? (reads : .input ∈ effects) (params : String) :
    Confined setup effects (choice? params) := by
  unfold choice?
  split
  · apply Confined.bind (confined_say _)
    intro _
    apply Confined.look
    · intro console console' same
      rw [same]
    intro console
    apply Confined.bind (confined_sayChoices _ _)
    intro _
    apply Confined.bind (.ask reads _)
    intro answer
    split
    · exact .bind (confined_say _) fun _ => .pure _
    · exact .pure _
  · exact .pure _

theorem confined_sayAccounts (current : Option String) (position : Nat) (accounts : List Account) :
    Confined setup effects (sayAccounts current position accounts) := by
  induction accounts generalizing position with
  | nil => exact .pure ()
  | cons account accounts ih => exact .bind (confined_say _) fun _ => ih _

theorem confined_sayState (state : AccountState) : Confined setup effects (sayState state) := by
  apply Confined.bind (confined_say _)
  intro _
  apply Confined.bind (confined_say _)
  intro _
  exact .bind (confined_say _) fun _ => confined_say _

theorem confined_welcome : Confined setup effects (welcome setup) := by
  apply Confined.look
  · intro console console' same
    rw [same]
  · exact fun console => .bind (confined_say _) fun _ => confined_say _

theorem confined_sayHelp (commands : List Command) :
    Confined setup effects (sayHelp setup commands) := by
  induction commands with
  | nil => exact .pure ()
  | cons command commands ih => exact .bind (confined_say _) fun _ => ih

theorem confined_transferText (reads : .input ∈ effects) (params : String) :
    Confined setup effects (transferText params) := by
  unfold transferText
  split
  · apply Confined.bind (.ask reads _)
    intro recipient
    exact .bind (.ask reads _) fun _ => .pure _
  · exact .pure params

theorem confined_accountNew (reads : .input ∈ effects) (creates : .account ∈ effects)
    (params : String) : Confined setup effects (accountNew setup params) := by
  apply Confined.bind (confined_say _)
  intro _
  apply Confined.bind (confined_paramsOr reads _ _)
  intro name
  exact .record creates name fun account => confined_say _

theorem confined_accountSet (reads : .input ∈ effects) (creates : .account ∈ effects)
    (selects : .selection ∈ effects) (params : String) :
    Confined setup effects (accountSet setup params) := by
  apply Confined.look
  · intro console console' same
    rw [same]
  intro console
  split
  · exact confined_accountNew reads creates ""
  · apply Confined.bind (confined_choice? reads params)
    intro choice
    cases choice with
    | none => exact .pure ()
    | some choice => exact .bind (.select selects _) fun _ => confined_say _

theorem confined_accountList : Confined setup effects accountList := by
  apply Confined.look
  · intro console console' same
    rw [same]
  intro console
  dsimp only
  split
  · exact .bind (confined_say _) fun _ => confined_sayAccounts _ _ _
  · exact confined_sayAccounts _ _ _

theorem confined_currentOrChosen (reads : .input ∈ effects) (creates : .account ∈ effects)
    (selects : .selection ∈ effects) : Confined setup effects (currentOrChosen setup) := by
  apply Confined.bind .current
  intro found
  cases found with
  | ok account => exact .pure account
  | error error =>
    apply Confined.look
    · intro console console' same
      rw [same]
    intro console
    dsimp only
    split
    · exact .bind (confined_accountNew reads creates "") fun _ => confined_currentAccount
    · exact .bind (confined_accountSet reads creates selects "") fun _ => confined_currentAccount

/-- The action finds out the current account first, which may have to be chosen or created, and has
only these effects from then on. -/
def AfterChoice (setup : Setup) (effects : List Effect) (action : ConsoleM Unit) : Prop :=
  ∃ rest, action = currentOrChosen setup >>= rest ∧ ∀ account, Confined setup effects (rest account)

theorem AfterChoice.confined {action : ConsoleM Unit} (h : AfterChoice setup effects action)
    (reads : .input ∈ effects) (creates : .account ∈ effects) (selects : .selection ∈ effects) :
    Confined setup effects action := by
  obtain ⟨rest, rfl, later⟩ := h
  exact .bind (confined_currentOrChosen reads creates selects) later

theorem afterChoice_accountInfo (asks : .question ∈ effects) :
    AfterChoice setup effects (accountInfo setup) := by
  refine ⟨_, rfl, fun account => ?_⟩
  apply Confined.bind (.accountState asks _)
  intro state
  apply Confined.bind (confined_say _)
  intro _
  apply Confined.bind (confined_say _)
  intro _
  apply Confined.bind (confined_sayState state)
  intro _
  apply Confined.bind (confined_say _)
  intro _
  exact .bind (confined_say _) fun _ => confined_say _

theorem afterChoice_accountSign (reads : .input ∈ effects) (params : String) :
    AfterChoice setup effects (accountSign setup params) := by
  refine ⟨_, rfl, fun _ => ?_⟩
  apply Confined.bind (confined_paramsOr reads _ _)
  intro text
  apply Confined.bind (.lift _)
  intro message
  exact .bind (confined_sign message) fun _ => confined_say _

theorem afterChoice_accountTextSign (reads : .input ∈ effects) (params : String) :
    AfterChoice setup effects (accountTextSign setup params) := by
  refine ⟨_, rfl, fun _ => ?_⟩
  apply Confined.bind (confined_paramsOr reads _ _)
  intro text
  exact .bind (confined_sign _) fun _ => confined_say _

theorem confined_sendText (asks : .question ∈ effects) (account : Account) (text : String) :
    Confined setup effects (sendText setup account text) := by
  apply Confined.bind (.lift _)
  intro request
  apply Confined.bind (.accountState asks _)
  intro state
  apply Confined.bind (confined_say _)
  intro _
  exact .bind (.submit asks _) fun _ => confined_say _

theorem afterChoice_accountSendCoin (reads : .input ∈ effects) (asks : .question ∈ effects)
    (params : String) : AfterChoice setup effects (accountSendCoin setup params) :=
  ⟨_, rfl, fun account =>
    .bind (confined_transferText reads params) fun text => confined_sendText asks account text⟩

theorem confined_sayStateOf (asks : .question ∈ effects) (address : Address) :
    Confined setup effects (do
      let state ← accountState setup address
      say ("Address: " ++ address.text)
      sayState state) := by
  apply Confined.bind (.accountState asks _)
  intro state
  exact .bind (confined_say _) fun _ => confined_sayState state

theorem confined_stateAccount (reads : .input ∈ effects) (asks : .question ∈ effects)
    (params : String) : Confined setup effects (stateAccount setup params) := by
  apply Confined.bind (confined_paramsOr reads _ _)
  intro text
  exact .bind (.lift _) fun address => confined_sayStateOf asks address

theorem confined_sayTransaction (asks : .question ∈ effects) (id : TransactionId) :
    Confined setup effects (do
      let state ← transactionState setup id
      say ("Transaction: 0x" ++ Hex.encode state.id.toList)
      say ("State: " ++ state.label)) := by
  apply Confined.bind (.transactionState asks _)
  intro state
  exact .bind (confined_say _) fun _ => confined_say _

theorem confined_statusTx (reads : .input ∈ effects) (asks : .question ∈ effects)
    (params : String) : Confined setup effects (statusTx setup params) := by
  apply Confined.bind (confined_paramsOr reads _ _)
  intro text
  exact .bind (.lift _) fun id => confined_sayTransaction asks id

/-- Two forms of one action, for two nodes. They do the same up to their first question to the
node, and nothing but asking and printing from then on. -/
inductive Twins (setup other : Setup) : {α : Type} → ConsoleM α → ConsoleM α → Prop
  | asking {α : Type} {action action' : ConsoleM α} (here : Confined setup [.question] action)
      (there : Confined other [.question] action') : Twins setup other action action'
  | after {α β : Type} {first : ConsoleM α} {rest rest' : α → ConsoleM β}
      (same : Confined setup [.input, .account, .selection] first)
      (later : ∀ a, Twins setup other (rest a) (rest' a)) :
      Twins setup other (first >>= rest) (first >>= rest')

variable (setup) (node : Node) (nodeUrl : String)

theorem twins_accountInfo :
    Twins setup { setup with node, nodeUrl } (accountInfo setup)
      (accountInfo { setup with node, nodeUrl }) := by
  obtain ⟨here, same, asks⟩ : AfterChoice setup [.question] (accountInfo setup) :=
    afterChoice_accountInfo (by decide)
  obtain ⟨there, same', asks'⟩ :
      AfterChoice { setup with node, nodeUrl } [.question]
        (accountInfo { setup with node, nodeUrl }) := afterChoice_accountInfo (by decide)
  rw [same, same']
  exact .after (confined_currentOrChosen (by decide) (by decide) (by decide)) fun account =>
    .asking (asks account) (asks' account)

theorem twins_accountSendCoin (params : String) :
    Twins setup { setup with node, nodeUrl } (accountSendCoin setup params)
      (accountSendCoin { setup with node, nodeUrl } params) := by
  refine .after (confined_currentOrChosen (by decide) (by decide) (by decide)) fun account => ?_
  refine .after (confined_transferText (by decide) params) fun text => ?_
  exact .asking (confined_sendText (by decide) _ _) (confined_sendText (by decide) _ _)

theorem twins_stateAccount (params : String) :
    Twins setup { setup with node, nodeUrl } (stateAccount setup params)
      (stateAccount { setup with node, nodeUrl } params) := by
  refine .after (confined_paramsOr (by decide) _ _) fun text => ?_
  refine .after (.lift _) fun address => ?_
  exact .asking (confined_sayStateOf (by decide) _) (confined_sayStateOf (by decide) _)

theorem twins_statusTx (params : String) :
    Twins setup { setup with node, nodeUrl } (statusTx setup params)
      (statusTx { setup with node, nodeUrl } params) := by
  refine .after (confined_paramsOr (by decide) _ _) fun text => ?_
  refine .after (.lift _) fun id => ?_
  exact .asking (confined_sayTransaction (by decide) _) (confined_sayTransaction (by decide) _)

variable {setup}

theorem confined_perform (action : Action) (params : String) :
    Confined setup Effect.all (perform setup action params) := by
  have goOn : ∀ {action : ConsoleM Unit}, Confined setup Effect.all action →
      Confined setup Effect.all (action >>= fun _ => pure Flow.goOn) :=
    fun h => .bind h fun _ => .pure Flow.goOn
  have chosen : ∀ {action : ConsoleM Unit}, AfterChoice setup Effect.all action →
      Confined setup Effect.all (action >>= fun _ => pure Flow.goOn) :=
    fun h => goOn (h.confined (by decide) (by decide) (by decide))
  cases action with
  | accountNew => exact goOn (confined_accountNew (by decide) (by decide) params)
  | accountSet => exact goOn (confined_accountSet (by decide) (by decide) (by decide) params)
  | accountList => exact goOn confined_accountList
  | accountInfo => exact chosen (afterChoice_accountInfo (by decide))
  | accountSign => exact chosen (afterChoice_accountSign (by decide) params)
  | accountTextSign => exact chosen (afterChoice_accountTextSign (by decide) params)
  | accountSendCoin => exact chosen (afterChoice_accountSendCoin (by decide) (by decide) params)
  | stateAccount => exact goOn (confined_stateAccount (by decide) (by decide) params)
  | statusTx => exact goOn (confined_statusTx (by decide) (by decide) params)
  | help => exact goOn (confined_sayHelp Command.all)
  | quit => exact .pure Flow.quit

theorem confined_execute (line : String) :
    Confined setup Effect.all (execute setup line) := by
  unfold execute
  split
  · exact .bind (confined_say _) fun _ => .pure Flow.goOn
  · exact confined_perform _ _

end LedgerWallet.Console
