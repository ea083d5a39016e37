import LedgerWallet.Proofs.Console.Reach

namespace LedgerWallet.Console

variable {α β : Type}

def own (console : Console) : Wallet × FileTree × Seeds × List ByteString :=
  (console.wallet, console.files, console.seeds, console.input)

/-- In consoles that differ in what was asked and printed at most, the actions have one result and
leave consoles that differ in no more than that. -/
def Alike (action action' : ConsoleM α) : Prop :=
  ∀ console console', console.own = console'.own →
    (run action console).1 = (run action' console').1 ∧
      (run action console).2.own = (run action' console').2.own

def Idle (action : ConsoleM α) : Prop :=
  ∀ console, (run action console).2.own = console.own

theorem wallet_of_own {console console' : Console} (h : console.own = console'.own) :
    console.wallet = console'.wallet :=
  congrArg Prod.fst h

theorem input_of_own {console console' : Console} (h : console.own = console'.own) :
    console.input = console'.input :=
  congrArg (fun own => own.2.2.2) h

theorem alike_pure (a : α) : Alike (pure a) (pure a) := fun _ _ same => ⟨rfl, same⟩

theorem alike_write (text : String) : Alike (write text) (write text) := fun _ _ same => ⟨rfl, same⟩

section

variable {γ : Type} (told : List Call → γ)

def seen (console : Console) : (Wallet × FileTree × Seeds × List ByteString) × γ :=
  (console.own, told console.calls)

theorem alikeIn_of_calls_output {action : ConsoleM α}
    (h : ∀ console calls output, told console.calls = told calls →
      SameIn (seen told) (run action console) (run action { console with calls, output })) :
    AlikeIn (seen told) action action := by
  intro console console' same
  obtain ⟨wallet', files', seeds', calls', input', output'⟩ := console'
  simp only [seen, own, Prod.mk.injEq] at same
  obtain ⟨⟨rfl, rfl, rfl, rfl⟩, toldSame⟩ := same
  exact h console calls' output' toldSame

theorem alike_of_alikeIn {action action' : ConsoleM α}
    (h : AlikeIn (seen fun _ => ()) action action') : Alike action action' := by
  intro console console' same
  obtain ⟨result, next⟩ := h console console' (congrArg (·, ()) same)
  exact ⟨result, congrArg Prod.fst next⟩

theorem alikeIn_ask (question : String) :
    AlikeIn (seen told) (ask question) (ask question) := by
  apply alikeIn_of_calls_output
  intro console calls output same
  obtain ⟨answer, input⟩ :=
    firstAnswer_output ("> " ++ question ++ ": ") console.input console.output output
  rw [run_ask, run_ask]
  refine ⟨answer, Prod.ext ?_ same⟩
  exact congrArg (fun lines => (console.wallet, console.files, console.seeds, lines)) input

theorem alikeIn_readLine : AlikeIn (seen told) readLine readLine := by
  apply alikeIn_of_calls_output
  intro console calls output same
  obtain ⟨wallet, files, seeds, _, input, _⟩ := console
  rw [run_readLine, run_readLine]
  cases input <;> exact ⟨rfl, congrArg (Prod.mk _) same⟩

theorem alikeIn_createAccount (name : String) :
    AlikeIn (seen told) (createAccount name) (createAccount name) := by
  apply alikeIn_of_calls_output
  intro console calls output same
  rw [run_createAccount, run_createAccount]
  dsimp only
  cases console.wallet.create console.seeds name <;> exact ⟨rfl, congrArg (Prod.mk _) same⟩

theorem alikeIn_selectAccount (selector : Selector) :
    AlikeIn (seen told) (selectAccount selector) (selectAccount selector) := by
  apply alikeIn_of_calls_output
  intro console calls output same
  rw [run_selectAccount, run_selectAccount]
  dsimp only
  cases console.wallet.select selector <;> exact ⟨rfl, congrArg (Prod.mk _) same⟩

theorem alikeIn_persist : AlikeIn (seen told) persist persist := by
  apply alikeIn_of_calls_output
  intro console calls output same
  rw [run_persist, run_persist]
  exact ⟨rfl, congrArg (Prod.mk _) same⟩

end

theorem alike_get_bind {rest rest' : Console → ConsoleM α}
    (h : ∀ console console', console.own = console'.own → Alike (rest console) (rest' console')) :
    Alike (get >>= rest) (get >>= rest') := by
  intro console console' same
  rw [run_get_bind, run_get_bind]
  exact h console console' same console console' same

theorem alike_bind {action action' : ConsoleM α} {rest rest' : α → ConsoleM β}
    (first : Alike action action') (later : ∀ a, Alike (rest a) (rest' a)) :
    Alike (action >>= rest) (action' >>= rest') :=
  show AlikeIn own _ _ from alikeIn_bind first later

variable {setup : Setup} {effects : List Effect}

theorem Confined.alikeIn {γ : Type} (told : List Call → γ) {action : ConsoleM α}
    (h : Confined setup effects action) (asks : .question ∈ effects → Function.Injective told) :
    AlikeIn (seen told) action action := by
  induction h with
  | pure a => exact fun _ _ same => ⟨rfl, same⟩
  | lift result =>
    intro console console' same
    rw [run_lift, run_lift]
    exact ⟨rfl, same⟩
  | write text => exact fun _ _ same => ⟨rfl, same⟩
  | current =>
    apply alikeIn_of_calls_output
    intro console calls output same
    rw [run_attempt, run_attempt, run_currentAccount, run_currentAccount]
    exact ⟨rfl, congrArg (Prod.mk _) same⟩
  | look same later ih =>
    intro console console' equal
    rw [run_get_bind, run_get_bind, same console console' (wallet_of_own (congrArg Prod.fst equal))]
    exact ih console' console console' equal
  | bind first later ih ihLater => exact alikeIn_bind ih ihLater
  | ask allowed question => exact alikeIn_ask told question
  | record allowed name later ih =>
    exact alikeIn_bind (alikeIn_createAccount told name) fun account =>
      alikeIn_bind (alikeIn_persist told) fun _ => ih account
  | select allowed selector => exact alikeIn_selectAccount told selector
  | accountState allowed address =>
    apply alikeIn_of_calls_output
    intro console calls output same
    rw [run_accountState, run_accountState, ← asks allowed same]
    exact ⟨rfl, rfl⟩
  | transactionState allowed id =>
    apply alikeIn_of_calls_output
    intro console calls output same
    rw [run_transactionState, run_transactionState, ← asks allowed same]
    exact ⟨rfl, rfl⟩
  | submit allowed transfer =>
    apply alikeIn_of_calls_output
    intro console calls output same
    rw [run_submit, run_submit, ← asks allowed same]
    exact ⟨rfl, rfl⟩

theorem Confined.alike {action : ConsoleM α} (h : Confined setup effects action)
    (silent : .question ∉ effects) : Alike action action :=
  alike_of_alikeIn (h.alikeIn (fun _ => ()) fun asks => absurd asks silent)

theorem Confined.idle {action : ConsoleM α} (h : Confined setup effects action)
    (only : effects ⊆ [.question]) : Idle action := by
  have never {effect : Effect} (ne : effect ≠ .question) : effect ∉ effects :=
    fun allowed => ne (List.mem_singleton.1 (only allowed))
  exact h.kept own (never (by decide)) (fun _ _ => rfl)
    (fun reads => absurd reads (never (by decide))) (fun _ _ _ => rfl)
    (fun selects => absurd selects (never (by decide)))

theorem Twins.own_eq {other : Setup} {action action' : ConsoleM α}
    (h : Twins setup other action action') {console console' : Console}
    (same : console.own = console'.own) :
    (run action console).2.own = (run action' console').2.own := by
  induction h generalizing console console' with
  | asking here there =>
    calc (run _ console).2.own = console.own := here.idle (List.Subset.refl _) console
      _ = console'.own := same
      _ = (run _ console').2.own := (there.idle (List.Subset.refl _) console').symm
  | after first later ih =>
    obtain ⟨result, next⟩ := first.alike (by decide) console console' same
    rw [run_bind, run_bind]
    revert result next
    generalize run _ console = ended
    generalize run _ console' = ended'
    obtain ⟨result, next⟩ := ended
    obtain ⟨result', next'⟩ := ended'
    rintro rfl same
    cases result with
    | error error => exact same
    | ok a => exact ih a same

def flowOf : Except WalletError Flow → Flow
  | .ok flow => flow
  | .error _ => .goOn

def SameCourse (ended ended' : Except WalletError Flow × Console) : Prop :=
  flowOf ended.1 = flowOf ended'.1 ∧ ended.2.own = ended'.2.own

theorem sameCourse_goOn {action action' : ConsoleM Unit} {console console' : Console}
    (h : (run action console).2.own = (run action' console').2.own) :
    SameCourse (run (action >>= fun _ => pure .goOn) console)
      (run (action' >>= fun _ => pure .goOn) console') := by
  rw [run_bind, run_bind]
  revert h
  generalize run action console = ended
  generalize run action' console' = ended'
  obtain ⟨result, next⟩ := ended
  obtain ⟨result', next'⟩ := ended'
  intro h
  cases result <;> cases result' <;> exact ⟨rfl, h⟩

variable (setup) (node : Node) (nodeUrl : String)

theorem perform_sameCourse (action : Action) (params : String) {console console' : Console}
    (same : console.own = console'.own) :
    SameCourse (run (perform setup action params) console)
      (run (perform { setup with node, nodeUrl } action params) console') := by
  have silent {action : ConsoleM Unit}
      (h : Confined setup [.input, .account, .selection] action) :
      SameCourse (run (action >>= fun _ => pure .goOn) console)
        (run (action >>= fun _ => pure .goOn) console') :=
    sameCourse_goOn (h.alike (by decide) console console' same).2
  have asking {action action' : ConsoleM Unit}
      (h : Twins setup { setup with node, nodeUrl } action action') :
      SameCourse (run (action >>= fun _ => pure .goOn) console)
        (run (action' >>= fun _ => pure .goOn) console') := sameCourse_goOn (h.own_eq same)
  cases action with
  | accountNew => exact silent (confined_accountNew (by decide) (by decide) params)
  | accountSet => exact silent (confined_accountSet (by decide) (by decide) (by decide) params)
  | accountList => exact silent confined_accountList
  | accountInfo => exact asking (twins_accountInfo setup node nodeUrl)
  | accountSign =>
    have chosen : AfterChoice setup [.input, .account, .selection] (accountSign setup params) :=
      afterChoice_accountSign (by decide) params
    exact silent (chosen.confined (by decide) (by decide) (by decide))
  | accountTextSign =>
    have chosen : AfterChoice setup [.input, .account, .selection] (accountTextSign setup params) :=
      afterChoice_accountTextSign (by decide) params
    exact silent (chosen.confined (by decide) (by decide) (by decide))
  | accountSendCoin => exact asking (twins_accountSendCoin setup node nodeUrl params)
  | stateAccount => exact asking (twins_stateAccount setup node nodeUrl params)
  | statusTx => exact asking (twins_statusTx setup node nodeUrl params)
  | help => exact silent (confined_sayHelp Command.all)
  | quit => exact ⟨rfl, same⟩

theorem execute_sameCourse (line : String) {console console' : Console}
    (same : console.own = console'.own) :
    SameCourse (run (execute setup line) console)
      (run (execute { setup with node, nodeUrl } line) console') := by
  unfold execute
  cases Command.dispatch line with
  | none => exact ⟨rfl, same⟩
  | some found => exact perform_sameCourse setup node nodeUrl _ _ same

theorem run_executeAndReport (line : String) (console : Console) :
    (run (executeAndReport setup line) console).1 =
        .ok (flowOf (run (execute setup line) console).1) ∧
      (run (executeAndReport setup line) console).2.own =
        (run (execute setup line) console).2.own := by
  unfold executeAndReport
  rw [run_bind, run_attempt]
  dsimp only
  cases (run (execute setup line) console).1 with
  | error error => exact ⟨rfl, rfl⟩
  | ok flow => exact ⟨rfl, rfl⟩

theorem alike_executeAndReport (line : String) :
    Alike (executeAndReport setup line)
      (executeAndReport { setup with node, nodeUrl } line) := by
  intro console console' same
  obtain ⟨flow, own⟩ := run_executeAndReport setup line console
  obtain ⟨flow', own'⟩ := run_executeAndReport { setup with node, nodeUrl } line console'
  obtain ⟨sameFlow, sameOwn⟩ := execute_sameCourse setup node nodeUrl line same
  constructor
  · rw [flow, flow', sameFlow]
  · rw [own, own', sameOwn]

theorem alike_loop (count : Nat) :
    Alike (loop setup count) (loop { setup with node, nodeUrl } count) := by
  induction count with
  | zero => exact alike_pure false
  | succ count ih =>
    apply alike_bind (alike_write _)
    intro _
    apply alike_bind (alike_of_alikeIn (alikeIn_readLine _))
    intro answer
    cases answer with
    | none => exact alike_pure true
    | some line =>
      dsimp only
      split
      · exact ih
      · apply alike_bind (alike_executeAndReport setup node nodeUrl line)
        intro flow
        cases flow with
        | quit => exact alike_pure true
        | goOn => exact ih

theorem alike_welcome : Alike (welcome setup) (welcome { setup with node, nodeUrl }) :=
  fun _ _ same => ⟨rfl, same⟩

theorem alike_session : Alike (session setup) (session { setup with node, nodeUrl }) := by
  apply alike_bind (alike_welcome setup node nodeUrl)
  intro _
  apply alike_get_bind
  intro console console' same
  rw [input_of_own same]
  exact alike_bind (alike_loop setup node nodeUrl _) fun _ => alike_pure ()

def afterLines (setup : Setup) (console : Console) (count : Nat) : Console :=
  (run (welcome setup >>= fun _ => loop setup count) console).2

/-- With any two nodes a session ends alike and holds the same of its own, and so it does after each
of its lines. -/
theorem session_own_indep_node (files : FileTree) (directory : Path) (patience : Nat)
    (seeds : Seeds) (input : ByteString) :
    let other : Setup := { setup with node, nodeUrl }
    let opened : Console :=
      ⟨(Wallet.openIn files directory patience).1, files, seeds, [], splitLines input, ""⟩
    (run (session setup) opened).1 = (run (session other) opened).1 ∧
      (run (session setup) opened).2.own = (run (session other) opened).2.own ∧
      ∀ count, (afterLines setup opened count).own = (afterLines other opened count).own := by
  intro other opened
  obtain ⟨result, last⟩ := alike_session setup node nodeUrl opened opened rfl
  refine ⟨result, last, fun count => ?_⟩
  have lines : Alike (welcome setup >>= fun _ => loop setup count)
      (welcome other >>= fun _ => loop other count) :=
    alike_bind (alike_welcome setup node nodeUrl) fun _ => alike_loop setup node nodeUrl count
  exact (lines opened opened rfl).2

end LedgerWallet.Console
