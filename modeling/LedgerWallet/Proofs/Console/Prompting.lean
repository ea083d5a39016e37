import LedgerWallet.Proofs.Console.Sending
import LedgerWallet.Proofs.Transfer.Requests

namespace LedgerWallet

open Text

namespace TransferRequest

variable {gasPrice gasLimit : Amount} {recipient amount : String} {request : TransferRequest}

/-- What the two prompts ask for: the recipient and the amount, each the whole of its answer, and
the gas values of the setup. -/
def IsAsked (gasPrice gasLimit : Amount) (recipient amount : String)
    (request : TransferRequest) : Prop :=
  Address.parse recipient = .ok request.recipient ∧
    Numeral.readWord amount = .ok request.amount ∧
    request.gasPrice = gasPrice ∧ request.gasLimit = gasLimit

theorem isAsked_of_ofWords (h : ofWords gasPrice gasLimit [recipient, amount] = .ok request) :
    request.IsAsked gasPrice gasLimit recipient amount := by
  obtain ⟨-, ⟨_, first, writes⟩, ⟨_, second, spelled⟩, -, price, limit⟩ := denotes_of_ofWords h
  cases first
  cases second
  exact ⟨Address.parse_eq_ok_iff.2 writes, Numeral.readWord_eq_ok_iff.2 spelled, price, limit⟩

theorem isAsked_iff_unbroken (trimmed : trim recipient = recipient) (someRecipient : recipient ≠ "")
    (someAmount : amount ≠ "")
    (h : ofWords gasPrice gasLimit (words recipient ++ words amount) = .ok request) :
    request.IsAsked gasPrice gasLimit recipient amount ↔
      IsUnbroken recipient ∧ IsUnbroken amount := by
  constructor
  · rintro ⟨readRecipient, readAmount, -⟩
    have unbroken := Address.unbroken_of_parse readRecipient
    rw [trimmed] at unbroken
    exact ⟨unbroken, Numeral.unbroken_of_spells (Numeral.readWord_eq_ok_iff.1 readAmount)⟩
  · rintro ⟨unbrokenRecipient, unbrokenAmount⟩
    rw [words_of_unbroken unbrokenRecipient someRecipient,
      words_of_unbroken unbrokenAmount someAmount] at h
    exact isAsked_of_ofWords h

end TransferRequest

namespace Console

variable {setup : Setup} {console next last : Console} {account : Account}
  {question recipient amount : String}

theorem textOfLine_trimmed {line : ByteString} {text : String} (h : textOfLine line = .ok text) :
    trim text = text := by
  unfold textOfLine at h
  split at h
  · cases h
    exact trim_trim _
  · cases h

theorem firstAnswer_some {prompt output text : String} {lines : List ByteString}
    (h : (firstAnswer prompt lines output).1 = .ok text) : text ≠ "" ∧ trim text = text := by
  induction lines generalizing output with
  | nil => cases h
  | cons line rest ih =>
    unfold firstAnswer at h
    cases read : textOfLine line with
    | error error =>
      rw [read] at h
      cases h
    | ok answer =>
      rw [read] at h
      dsimp only at h
      split at h
      · exact ih h
      · rename_i visible
        cases h
        exact ⟨visible, textOfLine_trimmed read⟩

theorem answer_of_ask {text : String} (h : run (ask question) console = (.ok text, next)) :
    text ≠ "" ∧ trim text = text ∧ next.desk = console.desk := by
  rw [run_ask] at h
  obtain ⟨answered, rfl⟩ := Prod.mk.inj h
  obtain ⟨visible, trimmed⟩ := firstAnswer_some answered
  exact ⟨visible, trimmed, rfl⟩

theorem transferText_of_answers
    (first : run (ask "Enter recipient address") console = (.ok recipient, next))
    (second : run (ask "Enter amount to transfer in Smidge") next = (.ok amount, last)) :
    run (transferText "") console = (.ok (recipient ++ " " ++ amount), last) := by
  rw [transferText, if_pos rfl, run_bind_of_ok first, run_bind_of_ok second]
  rfl

/-- A transfer entered at the prompts is read from the words of both answers. If it is sent, it is
the one that the prompts asked for exactly if neither answer holds white space. -/
theorem prompted_transfer_as_asked_iff (reachable : Reachable setup console)
    (current : console.wallet.currentAccount = .ok account)
    (first : run (ask "Enter recipient address") console = (.ok recipient, next))
    (second : run (ask "Enter amount to transfer in Smidge") next = (.ok amount, last)) :
    let sent := run (accountSendCoin setup "") console
    match TransferRequest.ofWords setup.gasPrice setup.gasLimit
        (words recipient ++ words amount) with
    | .error error => sent.1 = .error error ∧ sent.2.calls = console.calls
    | .ok request =>
      (request.IsAsked setup.gasPrice setup.gasLimit recipient amount ↔
        IsUnbroken recipient ∧ IsUnbroken amount) ∧
      match answer setup console account.address with
      | .error error =>
        sent.1 = .error (.node error) ∧
          sent.2.calls = console.calls ++ [.accountState account.address]
      | .ok state =>
        ∃ signature, account.sign (request.transfer state.projectedNonce).encode = .ok signature ∧
          sent.2.calls = console.calls ++ [.accountState account.address, .submit
            (SignedTransfer.encode ⟨request.transfer state.projectedNonce, signature⟩)] := by
  intro sent
  obtain ⟨someRecipient, trimmed, firstDesk⟩ := answer_of_ask first
  obtain ⟨someAmount, -, secondDesk⟩ := answer_of_ask second
  have desk : last.desk = console.desk := secondDesk.trans firstDesk
  have sameWallet : last.wallet = console.wallet := congrArg Desk.wallet desk
  have sameCalls : last.calls = console.calls := congrArg Desk.calls desk
  have sameAnswer : answer setup last account.address = answer setup console account.address := by
    rw [answer, answer, sameWallet, sameCalls]
  have ran : sent = run (sendText setup account (recipient ++ " " ++ amount)) last := by
    have typed := transferText_of_answers first second
    exact (run_accountSendCoin current "").trans (run_bind_of_ok typed)
  have parsed : TransferRequest.parse (recipient ++ " " ++ amount) setup.gasPrice setup.gasLimit =
      TransferRequest.ofWords setup.gasPrice setup.gasLimit (words recipient ++ words amount) := by
    rw [TransferRequest.parse, words_append_space]
  rw [ran, ← sameCalls, ← sameAnswer]
  cases read : TransferRequest.ofWords setup.gasPrice setup.gasLimit
      (words recipient ++ words amount) with
  | error error =>
    rw [sendText_unread (parsed.trans read)]
    exact ⟨rfl, rfl⟩
  | ok request =>
    refine ⟨TransferRequest.isAsked_iff_unbroken trimmed someRecipient someAmount read, ?_⟩
    cases answered : answer setup last account.address with
    | error error =>
      rw [sendText_unanswered (parsed.trans read) answered]
      exact ⟨rfl, rfl⟩
    | ok state =>
      obtain ⟨signature, result, output, signs, done⟩ := sendText_answered
        (reachable.paired current) (parsed.trans read) answered (sameWallet ▸ current)
      rw [done]
      exact ⟨signature, signs, rfl⟩

/-- An amount typed behind the recipient is sent, and the answer to the question for the amount
becomes the gas price. -/
theorem amount_moved_to_gas_price :
    let recipient := "0x4242424242424242424242424242424242424242 500"
    let console := { Sample.console with
      input := [Utf8.encode (recipient ++ "\n"), Utf8.encode "7\n"] }
    let request : TransferRequest := ⟨⟨.replicate 20 0x42⟩, 500, 7, 100⟩
    (∃ signature, Sample.account.sign (request.transfer 7).encode = .ok signature ∧
      (run (accountSendCoin Sample.setup "") console).2.calls =
        [.accountState Sample.account.address,
          .submit (SignedTransfer.encode ⟨request.transfer 7, signature⟩)]) ∧
      ¬ request.IsAsked Sample.setup.gasPrice Sample.setup.gasLimit recipient "7" := by
  intro recipient console request
  have reachable : Reachable Sample.setup console := .between _ _ reachable_sample
  have current : console.wallet.currentAccount = .ok Sample.account := currentAccount_sample
  let next := (run (ask "Enter recipient address") console).2
  let last := (run (ask "Enter amount to transfer in Smidge") next).2
  have first : run (ask "Enter recipient address") console = (.ok recipient, next) :=
    Prod.ext (ok_of_toOption (by decide +kernel)) rfl
  have second : run (ask "Enter amount to transfer in Smidge") next = (.ok "7", last) :=
    Prod.ext (ok_of_toOption (by decide +kernel)) rfl
  have read : TransferRequest.ofWords 1 100 (words recipient ++ words "7") = .ok request :=
    ok_of_toOption (by decide +kernel)
  have asked : console.calls = [] := by decide +kernel
  have sent := prompted_transfer_as_asked_iff reachable current first second
  rw [show TransferRequest.ofWords Sample.setup.gasPrice Sample.setup.gasLimit _ = _ from read]
    at sent
  dsimp only at sent
  rw [answer_sample, asked] at sent
  obtain ⟨asAsked, submitted⟩ := sent
  refine ⟨submitted, fun isAsked => ?_⟩
  obtain ⟨unbroken, -⟩ := asAsked.1 isAsked
  have blank : isBlank ' ' = false := unbroken ' ' (by decide)
  cases blank

end Console

end LedgerWallet
