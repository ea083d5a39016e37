import LedgerWallet.Proofs.Console.Effects
import LedgerWallet.Proofs.Console.Evaluation
import LedgerWallet.Proofs.Wallet.Accounts

namespace LedgerWallet.Console

variable {α β : Type} {node : Node}

def desk (console : Console) : Desk :=
  ⟨console.wallet, console.files, console.seeds, console.calls⟩

def Quiet (action : ConsoleM α) : Prop :=
  ∀ console, (run action console).2.desk = console.desk

def Follows (node : Node) (action : ConsoleM α) : Prop :=
  ∀ console, ∃ operations, (run action console).2.desk = console.desk.run node operations

theorem Quiet.follows {action : ConsoleM α} (h : Quiet action) : Follows node action :=
  fun console => ⟨[], h console⟩

def Operated (node : Node) (console next : Console) : Prop :=
  ∃ operations, next.desk = console.desk.run node operations

theorem Operated.refl (console : Console) : Operated node console console := ⟨[], rfl⟩

theorem Operated.trans {console next last : Console} (first : Operated node console next)
    (later : Operated node next last) : Operated node console last := by
  obtain ⟨operations, followed⟩ := first
  obtain ⟨more, followedMore⟩ := later
  exact ⟨operations ++ more, by rw [Desk.run_append, ← followed, followedMore]⟩

theorem follows_bind {action : ConsoleM α} {rest : α → ConsoleM β} (first : Follows node action)
    (later : ∀ a, Follows node (rest a)) : Follows node (action >>= rest) :=
  across_bind (R := Operated node) Operated.trans first later

theorem quiet_readLine : Quiet readLine := by
  intro console
  rw [run_readLine]
  cases console.input <;> rfl

theorem quiet_paramsOr (params question : String) : Quiet (paramsOr params question) := by
  unfold paramsOr
  split
  · exact fun _ => rfl
  · exact fun _ => rfl

variable {setup : Setup} {effects : List Effect} {console next : Console}

/-- What a single action with one of these effects, or a text that is printed, makes of a console. -/
inductive Step (setup : Setup) (effects : List Effect) (console : Console) : Console → Prop
  | printed (text : String) :
      Step setup effects console { console with output := console.output ++ text }
  | asked (allowed : .input ∈ effects) (question : String) :
      Step setup effects console (run (ask question) console).2
  | created (allowed : .account ∈ effects) (name : String) :
      Step setup effects console (run (createAccount name) console).2
  | saved (allowed : .account ∈ effects) : Step setup effects console (run persist console).2
  | selected (allowed : .selection ∈ effects) (selector : Selector) :
      Step setup effects console (run (selectAccount selector) console).2
  | accountState (allowed : .question ∈ effects) (address : Address) :
      Step setup effects console (run (accountState setup address) console).2
  | transactionState (allowed : .question ∈ effects) (id : TransactionId) :
      Step setup effects console (run (transactionState setup id) console).2
  | submitted (allowed : .question ∈ effects) (transfer : Transfer) :
      Step setup effects console (run (submit setup transfer) console).2

/-- Whatever holds across every step holds across an action that consists of such steps. -/
theorem Confined.across {R : Console → Console → Prop} {action : ConsoleM α}
    (h : Confined setup effects action) (refl : ∀ console, R console console)
    (trans : ∀ {a b c}, R a b → R b c → R a c)
    (step : ∀ {console next}, Step setup effects console next → R console next) :
    ∀ console, R console (run action console).2 := by
  induction h with
  | pure a => exact refl
  | lift result =>
    intro console
    rw [run_lift]
    exact refl console
  | write text => exact fun console => step (.printed text)
  | current =>
    intro console
    rw [run_attempt, run_currentAccount]
    exact refl console
  | look same later ih => exact fun console => ih console console
  | bind first later ih ihLater => exact across_bind (R := R) trans ih ihLater
  | ask allowed question => exact fun console => step (.asked allowed question)
  | record allowed name later ih =>
    exact across_bind (R := R) trans (fun _ => step (.created allowed name)) fun account =>
      across_bind (R := R) trans (fun _ => step (.saved allowed)) fun _ => ih account
  | select allowed selector => exact fun console => step (.selected allowed selector)
  | accountState allowed address => exact fun console => step (.accountState allowed address)
  | transactionState allowed id => exact fun console => step (.transactionState allowed id)
  | submit allowed transfer => exact fun console => step (.submitted allowed transfer)

theorem Step.operated (h : Step setup effects console next) : Operated setup.node console next := by
  cases h with
  | printed text => exact .refl console
  | asked allowed question => exact ⟨[], rfl⟩
  | created allowed name =>
    refine ⟨[.create name], ?_⟩
    rw [run_createAccount]
    cases created : console.wallet.create console.seeds name with
    | error error => simp only [desk, Desk.run, Desk.perform, created]
    | ok made => simp only [desk, Desk.run, Desk.perform, created]
  | saved allowed =>
    refine ⟨[.persist], ?_⟩
    rw [run_persist]
    cases persisted : console.wallet.persist console.files with
    | mk result changed => simp only [desk, Desk.run, Desk.perform, persisted]
  | selected allowed selector =>
    refine ⟨[.select selector], ?_⟩
    rw [run_selectAccount]
    cases selected : console.wallet.select selector with
    | error error => simp only [desk, Desk.run, Desk.perform, selected]
    | ok found => simp only [desk, Desk.run, Desk.perform, selected]
  | accountState allowed address =>
    refine ⟨[.accountState address], ?_⟩
    rw [run_accountState]
    rfl
  | transactionState allowed id =>
    refine ⟨[.transactionState id], ?_⟩
    rw [run_transactionState]
    rfl
  | submitted allowed transfer =>
    refine ⟨[.submit transfer], ?_⟩
    rw [run_submit]
    rfl

theorem Confined.follows {action : ConsoleM α} (h : Confined setup effects action) :
    Follows setup.node action :=
  h.across Operated.refl Operated.trans Step.operated

def AddsText (console next : Console) : Prop :=
  ∃ more, next.output = console.output ++ more

theorem AddsText.of_eq (same : next.output = console.output) : AddsText console next :=
  ⟨"", same.trans String.append_empty.symm⟩

theorem AddsText.refl (console : Console) : AddsText console console := .of_eq rfl

theorem AddsText.trans {last : Console} (first : AddsText console next)
    (later : AddsText next last) : AddsText console last := by
  obtain ⟨more, printed⟩ := first
  obtain ⟨others, printed'⟩ := later
  exact ⟨more ++ others, by rw [printed', printed, String.append_assoc]⟩

theorem Step.addsText (h : Step setup effects console next) : AddsText console next := by
  cases h with
  | printed text => exact ⟨text, rfl⟩
  | asked allowed question => exact firstAnswer_printed _ _ _
  | created allowed name =>
    apply AddsText.of_eq
    rw [run_createAccount]
    cases console.wallet.create console.seeds name <;> rfl
  | saved allowed =>
    apply AddsText.of_eq
    rw [run_persist]
  | selected allowed selector =>
    apply AddsText.of_eq
    rw [run_selectAccount]
    cases console.wallet.select selector <;> rfl
  | accountState allowed address =>
    apply AddsText.of_eq
    rw [run_accountState]
  | transactionState allowed id =>
    apply AddsText.of_eq
    rw [run_transactionState]
  | submitted allowed transfer =>
    apply AddsText.of_eq
    rw [run_submit]

theorem Confined.addsText {action : ConsoleM α} (h : Confined setup effects action) :
    ∀ console, AddsText console (run action console).2 :=
  h.across AddsText.refl AddsText.trans Step.addsText

theorem Confined.kept {γ : Type} (view : Console → γ) {action : ConsoleM α}
    (h : Confined setup effects action) (never : .account ∉ effects)
    (printed : ∀ console output, view { console with output } = view console)
    (entered : .input ∈ effects →
      ∀ console input output, view { console with input, output } = view console)
    (asked : .question ∈ effects → ∀ console calls, view { console with calls } = view console)
    (selected : .selection ∈ effects → ∀ console session,
      view { console with wallet := { console.wallet with session } } = view console) :
    ∀ console, view (run action console).2 = view console := by
  refine h.across (R := fun console next => view next = view console) (fun _ => rfl)
    (fun first later => later.trans first) ?_
  intro console next step
  cases step with
  | printed text => exact printed console _
  | asked allowed question => exact entered allowed console _ _
  | created allowed | saved allowed => exact absurd allowed never
  | selected allowed selector =>
    rw [run_selectAccount]
    cases found : console.wallet.select selector with
    | error error => rfl
    | ok made =>
      obtain ⟨account, wallet⟩ := made
      obtain ⟨session, -, rfl⟩ := Wallet.select_ok found
      exact selected allowed console session
  | accountState allowed address =>
    rw [run_accountState]
    exact asked allowed console _
  | transactionState allowed id =>
    rw [run_transactionState]
    exact asked allowed console _
  | submitted allowed transfer =>
    rw [run_submit]
    exact asked allowed console _

theorem Confined.quiet {effects : List Effect} {action : ConsoleM α}
    (h : Confined setup effects action) (only : effects ⊆ [.input]) : Quiet action := by
  have never {effect : Effect} (ne : effect ≠ .input) : effect ∉ effects :=
    fun allowed => ne (List.mem_singleton.1 (only allowed))
  exact h.kept desk (never (by decide)) (fun _ _ => rfl) (fun _ _ _ _ => rfl)
    (fun asks => absurd asks (never (by decide)))
    (fun selects => absurd selects (never (by decide)))

theorem quiet_transferText (setup : Setup) (params : String) : Quiet (transferText params) := by
  have confined : Confined setup [.input] (transferText params) :=
    confined_transferText (by decide) params
  exact confined.quiet (List.Subset.refl _)

theorem follows_executeAndReport (line : String) :
    Follows setup.node (executeAndReport setup line) := by
  have attempted : Follows setup.node (attempt (execute setup line)) :=
    (confined_execute line).follows
  apply follows_bind attempted
  intro result
  cases result with
  | ok flow => exact fun _ => ⟨[], rfl⟩
  | error error => exact fun _ => ⟨[], rfl⟩

theorem follows_loop (count : Nat) : Follows setup.node (loop setup count) := by
  induction count with
  | zero => exact fun _ => ⟨[], rfl⟩
  | succ count ih =>
    have prompted : Confined setup [] (write "$ ") := .write _
    apply follows_bind prompted.follows
    intro _
    apply follows_bind quiet_readLine.follows
    intro answer
    cases answer with
    | none => exact fun _ => ⟨[], rfl⟩
    | some line =>
      dsimp only
      split
      · exact ih
      · apply follows_bind (follows_executeAndReport line)
        intro flow
        cases flow with
        | quit => exact fun _ => ⟨[], rfl⟩
        | goOn => exact ih

theorem follows_session : Follows setup.node (session setup) := by
  have welcomed : Confined setup [] (welcome setup) := confined_welcome
  apply follows_bind welcomed.follows
  intro _ console
  rw [run_get_bind]
  exact follows_bind (follows_loop _) (fun _ _ => ⟨[], rfl⟩) console

/-- The states that a console comes to from the opening of its wallet, with anything typed and
printed between the commands. -/
inductive Reachable (setup : Setup) : Console → Prop
  | opened (files : FileTree) (directory : Path) (patience : Nat) (seeds : Seeds) :
      Reachable setup ⟨(Wallet.openIn files directory patience).1, files, seeds, [], [], ""⟩
  | between {console : Console} (input : List ByteString) (output : String) :
      Reachable setup console → Reachable setup { console with input, output }
  | performed {console : Console} (action : Action) (params : String) :
      Reachable setup console → Reachable setup (run (perform setup action params) console).2

theorem Follows.keeps {P : Wallet → Prop} (kept : ∀ {desk : Desk} operations, P desk.wallet →
    P (desk.run node operations).wallet) {action : ConsoleM α} (follows : Follows node action)
    {console : Console} (before : P console.wallet) : P (run action console).2.wallet := by
  obtain ⟨operations, followed⟩ := follows console
  have same : (run action console).2.wallet = (console.desk.run node operations).wallet :=
    congrArg Desk.wallet followed
  rw [same]
  exact kept operations before

theorem Follows.sound {action : ConsoleM α} (follows : Follows node action) {console : Console}
    (sound : console.wallet.store.Sound) : (run action console).2.wallet.store.Sound :=
  follows.keeps (P := fun wallet => wallet.store.Sound)
    (fun operations sound => Desk.sound_run sound operations) sound

theorem Reachable.keeps {P : Wallet → Prop}
    (opened : ∀ files directory patience, P (Wallet.openIn files directory patience).1)
    (kept : ∀ {desk : Desk} operations, P desk.wallet → P (desk.run setup.node operations).wallet)
    {console : Console} (h : Reachable setup console) : P console.wallet := by
  induction h with
  | opened files directory patience seeds => exact opened files directory patience
  | between input output _ ih => exact ih
  | performed action params _ ih => exact (confined_perform action params).follows.keeps kept ih

theorem Reachable.sound {console : Console} (h : Reachable setup console) :
    console.wallet.store.Sound :=
  h.keeps (P := fun wallet => wallet.store.Sound) Wallet.sound_openIn
    fun operations sound => Desk.sound_run sound operations

theorem Reachable.paired {console : Console} {account : Account} (h : Reachable setup console)
    (current : console.wallet.currentAccount = .ok account) : account.Paired :=
  h.sound.paired account (Wallet.mem_of_currentAccount current)

end LedgerWallet.Console
