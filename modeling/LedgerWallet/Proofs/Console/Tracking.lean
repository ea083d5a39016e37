import LedgerWallet.Proofs.Console.Ids
import LedgerWallet.Proofs.Console.Sending
import LedgerWallet.Proofs.Node.Requests

namespace LedgerWallet

open Text

namespace Console

variable {α β : Type} {setup : Setup} {effects : List Effect} {console next last : Console}
  {params text : String} {id : TransactionId} {state : TransactionState}

/-- From one console to the next the node was not asked, an answer may take as long as before, and
text was only added to what was printed. -/
structure Offline (console next : Console) : Prop where
  calls : next.calls = console.calls
  patience : next.wallet.patience = console.wallet.patience
  output : AddsText console next

theorem Offline.refl (console : Console) : Offline console console :=
  ⟨rfl, rfl, .refl console⟩

theorem Offline.trans (first : Offline console next) (later : Offline next last) :
    Offline console last :=
  ⟨later.calls.trans first.calls, later.patience.trans first.patience,
    first.output.trans later.output⟩

theorem Step.offline (h : Step setup effects console next) (silent : .question ∉ effects) :
    Offline console next := by
  have output := h.addsText
  cases h with
  | printed text => exact ⟨rfl, rfl, output⟩
  | asked allowed question => exact ⟨rfl, rfl, output⟩
  | created allowed name =>
    rw [run_createAccount] at output ⊢
    cases created : console.wallet.create console.seeds name with
    | error error => exact .refl console
    | ok made =>
      obtain ⟨account, wallet, seeds⟩ := made
      have same := (Wallet.create_ok created).2.2
      have patience := congrArg Wallet.patience same
      rw [created] at output
      exact ⟨rfl, patience, output⟩
  | saved allowed =>
    have same : (console.wallet.persist console.files).2.1.patience = console.wallet.patience := by
      unfold Wallet.persist
      split <;> rfl
    rw [run_persist] at output ⊢
    exact ⟨rfl, same, output⟩
  | selected allowed selector =>
    rw [run_selectAccount] at output ⊢
    cases selected : console.wallet.select selector with
    | error error => exact .refl console
    | ok found =>
      obtain ⟨account, wallet⟩ := found
      obtain ⟨session, -, rfl⟩ := Wallet.select_ok selected
      rw [selected] at output
      exact ⟨rfl, rfl, output⟩
  | accountState allowed | transactionState allowed | submitted allowed =>
    exact absurd allowed silent

theorem Confined.offline {action : ConsoleM α} (h : Confined setup effects action)
    (silent : .question ∉ effects) : ∀ console, Offline console (run action console).2 :=
  h.across Offline.refl Offline.trans fun step => step.offline silent

def Confirmed (setup : Setup) (console next : Console) (state : TransactionState) : Prop :=
  ∃ address signed, next.calls = console.calls ++ [.accountState address] ++ [.submit signed] ∧
    (setup.node.submit (console.calls ++ [.accountState address]) signed).within
      console.wallet.patience "transaction submission" = .ok state

/-- If the action submits a transfer and the node answers, it ends well and prints the answer. -/
def Announces (setup : Setup) (action : ConsoleM Unit) : Prop :=
  ∀ console state, Confirmed setup console (run action console).2 state →
    (run action console).1 = .ok () ∧ ∃ earlier, (run action console).2.output =
      console.output ++ earlier ++ heading setup ++ (" " ++ state.display ++ "\n")

theorem Confirmed.length_calls (h : Confirmed setup console next state) :
    next.calls.length = console.calls.length + 2 := by
  obtain ⟨address, signed, calls, -⟩ := h
  rw [calls, List.length_append, List.length_append]
  rfl

theorem Confirmed.after (offline : Offline console next) (h : Confirmed setup console last state) :
    Confirmed setup next last state := by
  obtain ⟨address, signed, calls, answered⟩ := h
  rw [← offline.calls] at calls answered
  rw [← offline.patience] at answered
  exact ⟨address, signed, calls, answered⟩

theorem announces_bind {action : ConsoleM α} {rest : α → ConsoleM Unit}
    (first : ∀ console, Offline console (run action console).2)
    (later : ∀ a, Announces setup (rest a)) : Announces setup (action >>= rest) := by
  intro console state confirmed
  have offline := first console
  rw [run_bind] at confirmed ⊢
  cases done : run action console with
  | mk result next =>
    rw [done] at confirmed offline
    cases result with
    | error error =>
      have length := confirmed.length_calls
      rw [offline.calls] at length
      omega
    | ok a =>
      obtain ⟨succeeded, earlier, printed⟩ := later a next state (confirmed.after offline)
      obtain ⟨more, before⟩ := offline.output
      refine ⟨succeeded, more ++ earlier, ?_⟩
      rw [printed, before]
      simp only [String.append_assoc]

theorem run_submit_cases (setup : Setup) (transfer : Transfer) (console : Console) :
    (∃ error, run (submit setup transfer) console = (.error error, console)) ∨
    ∃ signed, run (submit setup transfer) console =
      (((setup.node.submit console.calls signed).within console.wallet.patience
        "transaction submission").mapError .node,
        { console with calls := console.calls ++ [.submit signed] }) := by
  rw [run_submit]
  unfold Wallet.submit
  dsimp only
  split
  · rename_i error _
    exact Or.inl ⟨error, rfl⟩
  · rename_i signed _
    exact Or.inr ⟨signed.encode, rfl⟩

theorem run_submitAndSay {transfer : Transfer} {earlier : List Call} {signed : ByteString}
    (length : earlier.length = console.calls.length)
    (calls : (run (submitAndSay setup transfer) console).2.calls = earlier ++ [.submit signed])
    (answered : (setup.node.submit earlier signed).within console.wallet.patience
      "transaction submission" = .ok state) :
    run (submitAndSay setup transfer) console = (.ok (), { console with
      calls := earlier ++ [.submit signed]
      output := console.output ++ ("> " ++ (heading setup ++ " " ++ state.display) ++ "\n") }) := by
  unfold submitAndSay at calls ⊢
  rcases run_submit_cases setup transfer console with ⟨error, failed⟩ | ⟨bytes, ran⟩
  · rw [run_bind_of_error failed] at calls
    have longer : console.calls.length = earlier.length + 1 := by
      rw [calls, List.length_append, List.length_singleton]
    omega
  · have made : console.calls ++ [.submit bytes] = earlier ++ [.submit signed] := by
      rw [← calls, run_bind, ran]
      cases (setup.node.submit console.calls bytes).within console.wallet.patience
        "transaction submission" <;> rfl
    obtain ⟨rfl, same⟩ := List.append_inj' made rfl
    cases same
    rw [answered] at ran
    rw [run_bind_of_ok ran, run_say]

theorem announces_sendText (setup : Setup) (account : Account) (text : String) :
    Announces setup (sendText setup account text) := by
  intro console state confirmed
  have length := confirmed.length_calls
  cases read : TransferRequest.parse text setup.gasPrice setup.gasLimit with
  | error error =>
    rw [sendText_unread read] at length
    dsimp only at length
    omega
  | ok request =>
    cases answered : answer setup console account.address with
    | error error =>
      rw [sendText_unanswered read answered, List.length_append, List.length_singleton] at length
      omega
    | ok found =>
      obtain ⟨said, ran⟩ := sendText_submits read answered
      obtain ⟨address, signed, calls, answer⟩ := confirmed
      rw [ran] at calls ⊢
      rw [run_submitAndSay (by simp) calls answer]
      refine ⟨rfl, said ++ "> ", ?_⟩
      simp only [String.append_assoc]

theorem announces_accountSendCoin (setup : Setup) (params : String) :
    Announces setup (accountSendCoin setup params) := by
  have chooses : Confined setup [.input, .account, .selection] (currentOrChosen setup) :=
    confined_currentOrChosen (by decide) (by decide) (by decide)
  have types : Confined setup [.input] (transferText params) := confined_transferText (by decide) _
  exact announces_bind (chooses.offline (by decide)) fun account =>
    announces_bind (types.offline (by decide)) fun text => announces_sendText setup account text

theorem words_of_display (state : TransactionState) : ∃ others,
    Text.words (" " ++ state.display ++ "\n") = ("0x" ++ Hex.encode state.id.toList) :: others := by
  have unbroken := (Hex.denotes_mark_encode state.id.toList).unbroken
  have printed : " " ++ state.display ++ "\n" =
      "" ++ " " ++ ("0x" ++ Hex.encode state.id.toList) ++ " " ++ ("(" ++ state.label ++ ")\n") := by
    simp [TransactionState.display, ← String.toList_inj]
  refine ⟨Text.words ("(" ++ state.label ++ ")\n"), ?_⟩
  rw [printed, Text.words_append_space, Text.words_append_space,
    Text.words_of_unbroken unbroken (by simp)]
  rfl

theorem denotes_of_shown {typed : String} {bytes : ByteString}
    (h : typed = "0x" ++ Hex.encode bytes ∨ "0x" ++ typed = "0x" ++ Hex.encode bytes) :
    Hex.Denotes typed bytes := by
  rcases h with rfl | same
  · exact Hex.denotes_mark_encode bytes
  · have bare : typed = Hex.encode bytes := by simpa [← String.toList_inj] using same
    rw [bare]
    exact Hex.denotes_encode bytes

/-- A result that supplies the digits of an id, of either case and with or without a mark, is read
as that id with its label. If a node answers a submission so, the first word behind the heading,
with or without its mark, is an id that the console asks the node about, once, in a request that
says nothing else. Any other text is refused before the node is asked. -/
theorem ids_come_back (id : TransactionId) (label : String) :
    let shown := "0x" ++ Hex.encode id.toList
    (∀ method text result written, Rpc.Yields text result →
      result.Supplies (Rpc.told (written, label)) → Hex.Denotes written id.toList →
      (Rpc.resultOf method text >>= Rpc.transactionStateOf) = .ok ⟨id, label⟩) ∧
    (∀ setup console params,
      let sent := run (accountSendCoin setup params) console
      Confirmed setup console sent.2 ⟨id, label⟩ →
      sent.1 = .ok () ∧ ∃ earlier after others,
        sent.2.output = console.output ++ earlier ++ heading setup ++ after ∧
        Text.words after = shown :: others) ∧
    (∀ typed, (typed = shown ∨ "0x" ++ typed = shown) →
      ∀ setup console line next, EntersId console line typed next →
        (run (execute setup line) console).2.calls = console.calls ++ [.transactionState id]) ∧
    (∀ url, Rpc.AsksFor (Rpc.request url (.transactionState id)).body "getTransactionState"
      id.toList) ∧
    (∀ text, ¬ Hex.HasDigits text 64 → ∀ setup console line next,
      EntersId console line text next →
        run (execute setup line) console = (.error (.badTransactionId text), next) ∧
          next.calls = console.calls) ∧
    (∀ text, text ≠ "" → Text.trim text = text → ∀ console,
      EntersId console ("status-tx " ++ text) text console) := by
  intro shown
  refine ⟨?_, ?_, ?_, Rpc.asksFor_request (.transactionState id), ?_, fun _ => entersId_line⟩
  · intro method text result written yields supplies denotes
    have reads := Rpc.readsExactly_bind Rpc.transactionStateOf_eq_ok_iff
      Rpc.transactionStateOf_ok_or_invalid method text
    exact (reads.value ⟨id, label⟩).2
      ⟨result, yields, written, supplies, TransactionState.denotes_of_hex denotes⟩
  · intro setup console params sent confirmed
    obtain ⟨succeeded, earlier, printed⟩ :=
      announces_accountSendCoin setup params console ⟨id, label⟩ confirmed
    obtain ⟨others, words⟩ := words_of_display ⟨id, label⟩
    exact ⟨succeeded, earlier, _, others, printed, words⟩
  · intro typed copied setup console line next entered
    exact entered.asked (readId_eq_ok_iff.2 (denotes_of_shown copied)) setup
  · intro text few setup console line next entered
    exact ⟨entered.refused (readId_of_not_hasDigits few) setup, entered.calls⟩

/-- A first transfer, and the question about it with the word that was printed. -/
theorem first_transfer_followed :
    let text := "0x4242424242424242424242424242424242424242 500"
    let sent := run (accountSendCoin Sample.setup text) Sample.console
    let shown := "0x4b4b4b4b4b4b4b4b4b4b4b4b4b4b4b4b4b4b4b4b4b4b4b4b4b4b4b4b4b4b4b4b"
    sent.1 = .ok () ∧
      (∃ earlier after others, sent.2.output = Sample.console.output ++ earlier ++
        "Transaction submitted:" ++ after ∧ Text.words after = shown :: others) ∧
      (run (execute Sample.setup ("status-tx " ++ shown)) sent.2).2.calls =
        sent.2.calls ++ [.transactionState Sample.transactionState.id] := by
  intro text sent shown
  have current := currentAccount_sample
  have read : TransferRequest.parse text Sample.setup.gasPrice Sample.setup.gasLimit =
      .ok ⟨⟨.replicate 20 0x42⟩, 500, 1, 100⟩ := ok_of_toOption (by decide +kernel)
  obtain ⟨signature, result, output, -, done⟩ :=
    sendText_answered (reachable_sample.paired current) read (answer_sample _ _) current
  have typed : sent = run (sendText Sample.setup Sample.account text) Sample.console := by
    have given : text ≠ "" := by decide
    rw [show sent = _ from run_accountSendCoin current text, transferText, if_neg given]
    rfl
  have confirmed : Confirmed Sample.setup Sample.console sent.2 Sample.transactionState := by
    rw [typed, done]
    exact ⟨_, _, (List.append_assoc _ [_] [_]).symm, if_pos (Nat.zero_le _)⟩
  have plain : heading Sample.setup = "Transaction submitted:" := rfl
  have word : "0x" ++ Hex.encode Sample.transactionState.id.toList = shown := by decide +kernel
  obtain ⟨-, announced, asked, -, -, line⟩ := ids_come_back Sample.transactionState.id "pending"
  obtain ⟨succeeded, printed⟩ := announced Sample.setup Sample.console text confirmed
  have entered := line shown (by decide) (by decide +kernel) sent.2
  have whole : run (accountSendCoin Sample.setup text) Sample.console = sent := rfl
  rw [plain, word, whole] at printed
  exact ⟨succeeded, printed, asked shown (Or.inl word.symm) Sample.setup sent.2 _ sent.2 entered⟩

end Console

end LedgerWallet
